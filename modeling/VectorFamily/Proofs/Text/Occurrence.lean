import Mathlib.Data.List.Basic
import VectorFamily.Text.Basic

/-!
# Where a piece of a text stands

A text, or any other list, holds a block somewhere; `occurrence_cases` says where another piece of
it can be: in front of the block, across its start, from inside of it on, or behind it.
-/

namespace VectorFamily.Text

section
variable {α : Type _}

theorem occurrence_cases {front block rest pre m post : List α}
    (h : front ++ block ++ rest = pre ++ m ++ post) :
    (∃ between, front = pre ++ m ++ between ∧ post = between ++ block ++ rest) ∨
    (∃ m₁ m₂, m₁ ≠ [] ∧ m₂ ≠ [] ∧ m = m₁ ++ m₂ ∧ front = pre ++ m₁ ∧ block ++ rest = m₂ ++ post) ∨
    (∃ b₁ b₂, b₂ ≠ [] ∧ block = b₁ ++ b₂ ∧ pre = front ++ b₁ ∧ b₂ ++ rest = m ++ post) ∨
    (∃ between, pre = front ++ block ++ between ∧ rest = between ++ m ++ post) := by
  simp only [List.append_assoc] at h
  rcases List.append_eq_append_iff.1 h with ⟨b₁, rfl, hb⟩ | ⟨f, rfl, hf⟩
  · rcases List.append_eq_append_iff.1 hb with ⟨d, rfl, hd⟩ | ⟨b₂, rfl, hb₂⟩
    · exact .inr (.inr (.inr ⟨d, by simp, by simpa using hd⟩))
    · by_cases hne : b₂ = []
      · subst hne
        exact .inr (.inr (.inr ⟨[], by simp, by simpa using hb₂.symm⟩))
      · exact .inr (.inr (.inl ⟨b₁, b₂, hne, rfl, rfl, hb₂.symm⟩))
  · rcases List.append_eq_append_iff.1 hf with ⟨m₁, rfl, hm⟩ | ⟨m₂, rfl, hm⟩
    · exact .inl ⟨m₁, by simp, by simpa using hm⟩
    · by_cases hne₁ : f = []
      · subst hne₁
        by_cases hb : block = []
        · subst hb
          exact .inr (.inr (.inr ⟨[], by simp, by simpa using hm⟩))
        · exact .inr (.inr (.inl ⟨[], block, hb, rfl, by simp, by simpa using hm⟩))
      · by_cases hne₂ : m₂ = []
        · subst hne₂
          exact .inl ⟨[], by simp, by simpa using hm.symm⟩
        · exact .inr (.inl ⟨f, m₂, hne₁, hne₂, rfl, rfl, hm⟩)

/-- A piece that does not hold a character stands wholly on one side of it. -/
theorem append_cons_cases {u v m pre post : List α} {e : α} (hne : m ≠ []) (he : e ∉ m)
    (h : u ++ e :: v = pre ++ m ++ post) :
    (∃ between, u = pre ++ m ++ between ∧ post = between ++ e :: v) ∨
    (∃ between, pre = u ++ e :: between ∧ v = between ++ m ++ post) := by
  have h' : u ++ [e] ++ v = pre ++ m ++ post := by simpa using h
  rcases occurrence_cases h' with ⟨between, hu, rfl⟩ | ⟨m₁, m₂, -, hm₂, rfl, -, hblock⟩ |
    ⟨b₁, b₂, hb₂, hblock, -, hm⟩ | ⟨between, rfl, hv⟩
  · exact .inl ⟨between, hu, by simp⟩
  · obtain ⟨c, m₂, rfl⟩ := List.exists_cons_of_ne_nil hm₂
    obtain rfl : e = c := (List.cons.inj hblock).1
    simp at he
  · obtain ⟨c, m, rfl⟩ := List.exists_cons_of_ne_nil hne
    cases b₁ with
    | nil =>
      obtain rfl : [e] = b₂ := hblock
      obtain rfl : e = c := (List.cons.inj hm).1
      simp at he
    | cons d b₁ => simp [hb₂] at hblock
  · exact .inr ⟨between, by simp, hv⟩

end

/-- Two texts never share a character of a third: neither goes on from inside of the other. -/
structure Apart (l m : Text) : Prop where
  fromInside : ∀ k < l.length, ¬ l.drop k <+: m ∧ ¬ m <+: l.drop k
  intoInside : ∀ k < m.length, ¬ m.drop k <+: l ∧ ¬ l <+: m.drop k

instance (l m : Text) : Decidable (Apart l m) :=
  decidable_of_iff (_ ∧ _) ⟨fun h => ⟨h.1, h.2⟩, fun h => ⟨h.fromInside, h.intoInside⟩⟩

/-- A piece that starts inside of another goes on in the rest of it. -/
theorem exists_overlap {α : Type _} {u v w x m y : List α} (h : u ++ v ++ w = x ++ m ++ y)
    (hle : u.length ≤ x.length) (hlt : x.length < u.length + v.length) :
    ∃ d v', x = u ++ d ∧ v = d ++ v' ∧ v' ≠ [] ∧ v' ++ w = m ++ y := by
  rw [List.append_assoc, List.append_assoc] at h
  obtain ⟨d, rfl⟩ := List.prefix_of_prefix_length_le ⟨_, h⟩ ⟨_, rfl⟩ hle
  rw [List.append_assoc, List.append_cancel_left_eq] at h
  have hd : d.length < v.length := by
    rw [List.length_append] at hlt
    omega
  obtain ⟨v', rfl⟩ := List.prefix_of_prefix_length_le ⟨_, h.symm⟩ ⟨_, rfl⟩ (Nat.le_of_lt hd)
  refine ⟨d, v', rfl, rfl, ?_, by simpa using h⟩
  rintro rfl
  simp at hd

theorem add_le_of_not_overlap {l m pre post u v : Text}
    (hl : ∀ k < l.length, ¬ l.drop k <+: m ∧ ¬ m <+: l.drop k)
    (h : pre ++ l ++ post = u ++ m ++ v) (hle : pre.length ≤ u.length) :
    pre.length + l.length ≤ u.length := by
  by_contra hlt
  obtain ⟨d, l', -, rfl, hne, hrest⟩ := exists_overlap h hle (by omega)
  have hl' := List.length_pos_iff.2 hne
  obtain ⟨hlm, hml⟩ := hl d.length (by simp only [List.length_append]; omega)
  rw [List.drop_left] at hlm hml
  rcases List.prefix_or_prefix_of_prefix ⟨_, hrest⟩ ⟨_, rfl⟩ with hp | hp
  · exact hlm hp
  · exact hml hp

theorem Apart.le_or_le {l m pre post u v : Text} (hlm : Apart l m)
    (h : pre ++ l ++ post = u ++ m ++ v) :
    pre.length + l.length ≤ u.length ∨ u.length + m.length ≤ pre.length := by
  rcases Nat.le_total pre.length u.length with hle | hle
  · exact .inl (add_le_of_not_overlap hlm.fromInside h hle)
  · exact .inr (add_le_of_not_overlap hlm.intoInside h.symm hle)

theorem not_overlap_of_head {l v : Text} (hne : l ≠ []) (h : ∀ c ∈ v, l.head? ≠ some c) :
    ∀ k < v.length, ¬ v.drop k <+: l ∧ ¬ l <+: v.drop k := by
  intro k hk
  have hdrop : v.drop k ≠ [] := by
    intro hnil
    have := congrArg List.length hnil
    simp only [List.length_drop, List.length_nil] at this
    omega
  have hhead : ∀ c, (v.drop k).head? = some c → l.head? ≠ some c := fun c hc =>
    h c (List.mem_of_mem_drop (List.mem_of_head? hc))
  constructor
  · rintro ⟨w, hw⟩
    refine hhead _ (List.head?_eq_some_head hdrop) ?_
    rw [← hw, List.head?_append_of_ne_nil _ hdrop, List.head?_eq_some_head hdrop]
  · rintro ⟨w, hw⟩
    refine hhead (l.head hne) ?_ (List.head?_eq_some_head hne)
    rw [← hw, List.head?_append_of_ne_nil _ hne, List.head?_eq_some_head hne]

/-- A text that stays apart from another one stays apart from it with more behind it, if it does not
start or end in that. -/
theorem Apart.append {l u v : Text} (hu : Apart l u)
    (hv : ∀ k < v.length, ¬ v.drop k <+: l ∧ ¬ l <+: v.drop k) : Apart l (u ++ v) := by
  constructor
  · intro k hk
    obtain ⟨hfront, hback⟩ := hu.fromInside k hk
    refine ⟨fun h => ?_, fun h => hback ((List.prefix_append u v).trans h)⟩
    rcases List.prefix_or_prefix_of_prefix h (List.prefix_append u v) with h' | h'
    · exact hfront h'
    · exact hback h'
  · intro k hk
    by_cases hlt : k < u.length
    · obtain ⟨hfront, hback⟩ := hu.intoInside k hlt
      rw [List.drop_append_of_le_length (Nat.le_of_lt hlt)]
      refine ⟨fun h => hfront ((List.prefix_append _ v).trans h), fun h => ?_⟩
      rcases List.prefix_or_prefix_of_prefix h (List.prefix_append _ v) with h' | h'
      · exact hback h'
      · exact hfront h'
    · rw [List.drop_append, List.drop_eq_nil_of_le (Nat.le_of_not_lt hlt), List.nil_append]
      rw [List.length_append] at hk
      exact hv _ (by omega)

end VectorFamily.Text
