import Mathlib.Data.List.Nodup
import VectorFamily.Proofs.Pattern.Segments
import VectorFamily.Proofs.Rule.Rewrite
import VectorFamily.Proofs.Text.Occurrence

/-!
# What deleting leaves

When matches are deleted, text that stood apart comes together and can look like a match again. To
tell it from text that stood together before, every character is taken with the place it had, and
`keptLetters` says which letters are left when the matches of some patterns have been deleted, one
pattern after another. `not_seeks_of_kept` is the result: letters that stood side by side before and
are left at the end are not what any of the patterns seeks. It needs that no match of the patterns
cuts a word (`Clean`), for then a word boundary beside the letters was there all the time.
-/

namespace VectorFamily

open Piece (isWordAt)

/-- A character with the place it had. -/
abbrev Letter := Char × Nat

section
variable {α : Type _}

def chars (l : List (Char × α)) : Text := l.map (·.1)

@[simp] theorem chars_nil : chars ([] : List (Char × α)) = [] := rfl

@[simp] theorem chars_cons (c : Char × α) (l : List (Char × α)) :
    chars (c :: l) = c.1 :: chars l :=
  rfl

@[simp] theorem chars_append (l l' : List (Char × α)) : chars (l ++ l') = chars l ++ chars l' := by
  simp [chars]

@[simp] theorem length_chars (l : List (Char × α)) : (chars l).length = l.length := by
  simp [chars]

@[simp] theorem chars_eq_nil_iff {l : List (Char × α)} : chars l = [] ↔ l = [] :=
  List.map_eq_nil_iff

theorem chars_eq_cons_iff {l : List (Char × α)} {c : Char} {t : Text} :
    chars l = c :: t ↔ ∃ e l', l = e :: l' ∧ e.1 = c ∧ chars l' = t :=
  List.map_eq_cons_iff

theorem chars_eq_append_iff {l : List (Char × α)} {t u : Text} :
    chars l = t ++ u ↔ ∃ l₁ l₂, l = l₁ ++ l₂ ∧ chars l₁ = t ∧ chars l₂ = u :=
  List.map_eq_append_iff

end

/-- No word goes on across an end of the text that stands between the two characters. -/
structure Uncut (before : Option Char) (m : Text) (after : Option Char) : Prop where
  front : ¬ (isWordAt before = true ∧ isWordAt m.head? = true)
  back : ¬ (isWordAt m.getLast? = true ∧ isWordAt after = true)

theorem uncut_iff {before after : Option Char} {m : Text} : Uncut before m after ↔
    (isWordAt before = false ∨ isWordAt m.head? = false) ∧
      (isWordAt m.getLast? = false ∨ isWordAt after = false) := by
  have not_and {b b' : Bool} : ¬ (b = true ∧ b' = true) ↔ b = false ∨ b' = false := by
    cases b <;> simp
  exact ⟨fun ⟨h, h'⟩ => ⟨not_and.1 h, not_and.1 h'⟩, fun ⟨h, h'⟩ => ⟨not_and.2 h, not_and.2 h'⟩⟩

/-! ### Letters -/

section
variable {α : Type _} {l u v w x m y : List α}

theorem exists_cut {n k : Nat} (h : n + k ≤ l.length) :
    ∃ u v w, l = u ++ v ++ w ∧ u.length = n ∧ v.length = k := by
  refine ⟨l.take n, (l.drop n).take k, (l.drop n).drop k, ?_, ?_, ?_⟩
  · rw [List.append_assoc, List.take_append_drop, List.take_append_drop]
  · rw [List.length_take]
    omega
  · rw [List.length_take, List.length_drop]
    omega

theorem exists_mem_of_overlap (h : u ++ v ++ w = x ++ m ++ y) (hv : v ≠ []) (hm : m ≠ [])
    (h₁ : x.length < u.length + v.length) (h₂ : u.length < x.length + m.length) :
    ∃ c, c ∈ v ∧ c ∈ m := by
  have first {u v w x m y : List α} (h : u ++ v ++ w = x ++ m ++ y) (hm : m ≠ [])
      (hle : u.length ≤ x.length) (hlt : x.length < u.length + v.length) : ∃ c, c ∈ v ∧ c ∈ m := by
    obtain ⟨d, v', -, rfl, hne, hrest⟩ := Text.exists_overlap h hle hlt
    obtain ⟨c, v', rfl⟩ := List.exists_cons_of_ne_nil hne
    obtain ⟨c', m, rfl⟩ := List.exists_cons_of_ne_nil hm
    obtain rfl : c = c' := (List.cons.inj hrest).1
    exact ⟨c, by simp, by simp⟩
  rcases Nat.le_total u.length x.length with hle | hle
  · exact first h hm hle h₁
  · obtain ⟨c, hcm, hcv⟩ := first h.symm hv hle h₂
    exact ⟨c, hcv, hcm⟩

/-- In a list without repetitions a piece has one place. -/
theorem append_inj_of_nodup (hl : (x ++ m ++ y).Nodup) (hm : m ≠ []) {x' y' : List α}
    (h : x ++ m ++ y = x' ++ m ++ y') : x = x' ∧ y = y' := by
  have ends {x m y x' y' : List α} (hl : (x ++ m ++ y).Nodup) (hm : m ≠ [])
      (h : x ++ m ++ y = x' ++ m ++ y') : x'.length ≤ x.length := by
    by_contra hlt
    rw [List.append_assoc, List.append_assoc] at h
    obtain ⟨d, rfl⟩ := List.prefix_of_prefix_length_le ⟨_, h⟩ ⟨_, rfl⟩ (by omega)
    obtain ⟨c, m, rfl⟩ := List.exists_cons_of_ne_nil hm
    rw [List.append_assoc, List.append_cancel_left_eq] at h
    cases d with
    | nil => simp at hlt
    | cons e d =>
      obtain rfl : c = e := (List.cons.inj h).1
      have hdup : (c :: (m ++ y)).Nodup := (List.nodup_append.1 (by simpa using hl)).2.1
      rw [show m ++ y = d ++ c :: (m ++ y') from by simpa using (List.cons.inj h).2] at hdup
      simp at hdup
  have hlen := Nat.le_antisymm (ends (h ▸ hl) hm h.symm) (ends hl hm h)
  rw [List.append_assoc, List.append_assoc] at h
  obtain ⟨rfl, htail⟩ := List.append_inj h hlen
  exact ⟨rfl, List.append_cancel_left htail⟩

theorem filter_mem_self [DecidableEq α] {k : List α} (hl : l.Nodup) (hk : k.Sublist l) :
    l.filter (· ∈ k) = k := by
  induction hk with
  | slnil => rfl
  | @cons k l c hk ih =>
    obtain ⟨hc, hl⟩ := List.nodup_cons.1 hl
    have hc' : c ∉ k := fun h => hc (hk.subset h)
    rw [List.filter_cons_of_neg (by simpa using hc'), ih hl]
  | @cons_cons k l c hk ih =>
    obtain ⟨hc, hl⟩ := List.nodup_cons.1 hl
    rw [List.filter_cons_of_pos (by simp)]
    congr 1
    refine (List.filter_congr fun d hd => ?_).trans (ih hl)
    have hne : d ≠ c := fun he => hc (he ▸ hd)
    simp [hne]

/-- Letters side by side stay side by side as long as they are left. -/
theorem infix_of_sublist [DecidableEq α] (hl : l.Nodup) {k : List α} (hk : k.Sublist l)
    (hm : m <:+: l) (hmk : m ⊆ k) : m <:+: k := by
  obtain ⟨x, y, rfl⟩ := hm
  have hself := filter_mem_self hl hk
  have hm : m.filter (· ∈ k) = m := List.filter_eq_self.2 fun c hc => by simpa using hmk hc
  rw [List.filter_append, List.filter_append, hm] at hself
  exact ⟨_, _, hself⟩

end

/-! ### One pattern -/

namespace Segment

/-- The letters that are left of a text when its matches are deleted. -/
def kept : List Segment → List Letter → List Letter
  | [], _ => []
  | .plain _ :: segs, l => l.take 1 ++ kept segs (l.drop 1)
  | .hit found :: segs, l => kept segs (l.drop found.text.length)

theorem kept_sublist (segs : List Segment) (l : List Letter) : (kept segs l).Sublist l := by
  induction segs generalizing l with
  | nil => exact List.nil_sublist l
  | cons s segs ih =>
    cases s with
    | plain c =>
      have := (List.Sublist.refl (l.take 1)).append (ih (l.drop 1))
      rwa [List.take_append_drop] at this
    | hit found => exact (ih _).trans (List.drop_sublist _ l)

theorem kept_append {s₁ s₂ : List Segment} {u v : List Letter}
    (h : u.length = (s₁.flatMap text).length) :
    kept (s₁ ++ s₂) (u ++ v) = kept s₁ u ++ kept s₂ v := by
  induction s₁ generalizing u with
  | nil =>
    obtain rfl : u = [] := List.length_eq_zero_iff.1 h
    rfl
  | cons s s₁ ih =>
    rw [List.flatMap_cons, List.length_append] at h
    cases s with
    | plain c =>
      cases u with
      | nil =>
        simp only [text, List.length_singleton, List.length_nil] at h
        omega
      | cons a u =>
        have hu : u.length = (s₁.flatMap text).length := by
          simp only [List.length_cons, text, List.length_nil] at h
          omega
        simp [kept, ih hu]
    | hit found =>
      have hle : found.text.length ≤ u.length := by
        simp only [text] at h
        omega
      have hu : (u.drop found.text.length).length = (s₁.flatMap text).length := by
        simp only [text, List.length_drop] at h ⊢
        omega
      rw [List.cons_append, kept, kept, List.drop_append_of_le_length hle, ih hu]

theorem kept_hit_append {found : Hit} {segs : List Segment} {v w : List Letter}
    (h : v.length = found.text.length) : kept (.hit found :: segs) (v ++ w) = kept segs w := by
  rw [kept, ← h, List.drop_left]

theorem kept_of_plain {segs : List Segment} (h : ∀ found, .hit found ∉ segs) {l : List Letter}
    (hl : l.length = (segs.flatMap text).length) : kept segs l = l := by
  induction segs generalizing l with
  | nil => exact (List.length_eq_zero_iff.1 hl).symm
  | cons s segs ih =>
    cases s with
    | plain c =>
      cases l with
      | nil =>
        simp only [List.flatMap_cons, text, List.length_append, List.length_singleton,
          List.length_nil] at hl
        omega
      | cons a l =>
        have hlen : l.length = (segs.flatMap text).length := by
          simp only [List.flatMap_cons, text, List.length_cons, List.length_append,
            List.length_nil] at hl
          omega
        have := ih (fun found hf => h found (List.mem_cons_of_mem _ hf)) hlen
        simp [kept, this]
    | hit found => exact absurd List.mem_cons_self (h found)

theorem chars_kept {segs : List Segment} {l : List Letter} (h : chars l = segs.flatMap text) :
    chars (kept segs l) = segs.flatMap (replaced Action.delete.render) := by
  induction segs generalizing l with
  | nil => rfl
  | cons s segs ih =>
    rw [List.flatMap_cons] at h
    cases s with
    | plain c =>
      cases l with
      | nil => simp [text] at h
      | cons a l =>
        obtain ⟨ha, hl⟩ := List.cons.inj h
        have hrest := ih hl
        simpa [kept, replaced, chars] using ⟨ha, hrest⟩
    | hit found =>
      have hl : chars (l.drop found.text.length) = segs.flatMap text := by
        rw [chars, List.map_drop, ← chars, h, text, List.drop_left]
      simp [kept, ih hl, replaced, Action.render]

end Segment

namespace Pattern

/-- No match cuts a word. -/
def Clean (p : Pattern) : Prop :=
  ∀ before found rest, p.match? before (found.text ++ rest) = some found →
    Uncut before found.text rest.head?

/-- The pattern matches wherever the text stands uncut. -/
def Seeks (p : Pattern) (m : Text) : Prop :=
  ∀ before post, Uncut before m post.head? → p.match? before (m ++ post) ≠ none

section
variable {p : Pattern} {t : Text} {s₁ s₂ : List Segment}

/-- Where a word goes on across a position, the character in front of it is left. -/
theorem isWordAt_getLast?_deleted (hp : p.Solid) (hclean : p.Clean) (he : p.segments t = s₁ ++ s₂)
    (h₁ : isWordAt (s₁.flatMap Segment.text).getLast? = true)
    (h₂ : isWordAt (s₂.flatMap Segment.text).head? = true) :
    isWordAt (s₁.flatMap (Segment.replaced Action.delete.render)).getLast? = true := by
  rcases List.eq_nil_or_concat s₁ with rfl | ⟨s₁, s, rfl⟩
  · exact h₁
  · cases s with
    | plain c => simpa [Segment.text, Segment.replaced] using h₁
    | hit found =>
      have hcut : p.segments t = s₁ ++ .hit found :: s₂ := by
        rw [he]
        simp
      have hm := match?_of_segments_eq hp hcut
      have hlast : ((s₁.concat (.hit found)).flatMap Segment.text).getLast? =
          found.text.getLast? := by
        simp [Segment.text, List.getLast?_append_of_ne_nil _ (hp _ _ _ hm)]
      exact absurd ⟨hlast ▸ h₁, h₂⟩ (hclean _ _ _ hm).back

/-- Where a word goes on across a position, the character behind it is left. -/
theorem isWordAt_head?_deleted (hp : p.Solid) (hclean : p.Clean) (he : p.segments t = s₁ ++ s₂)
    (h₁ : isWordAt (s₁.flatMap Segment.text).getLast? = true)
    (h₂ : isWordAt (s₂.flatMap Segment.text).head? = true) :
    isWordAt (s₂.flatMap (Segment.replaced Action.delete.render)).head? = true := by
  cases s₂ with
  | nil => exact h₂
  | cons s s₂ =>
    cases s with
    | plain c => simpa [Segment.text, Segment.replaced] using h₂
    | hit found =>
      have hm := match?_of_segments_eq hp he
      have hhead : ((Segment.hit found :: s₂).flatMap Segment.text).head? = found.text.head? := by
        simp [Segment.text, List.head?_append_of_ne_nil _ (hp _ _ _ hm)]
      exact absurd ⟨h₁, hhead ▸ h₂⟩ (hclean _ _ _ hm).front

end

section
variable {p : Pattern} {l x m y a b : List Letter}

/-- Segments that cover letters of which all are left: no match reaches into them. -/
theorem exists_segments_of_kept (hp : p.Solid) (hl : (x ++ m ++ y).Nodup) (hm : m ≠ [])
    (hsub : m ⊆ Segment.kept (p.segments (chars (x ++ m ++ y))) (x ++ m ++ y)) : ∃ s₁ s₂ s₃,
      p.segments (chars (x ++ m ++ y)) = s₁ ++ s₂ ++ s₃ ∧ s₁.flatMap Segment.text = chars x ∧
      s₂.flatMap Segment.text = chars m ∧ s₃.flatMap Segment.text = chars y ∧
      ∀ found, .hit found ∉ s₂ := by
  have htext := flatMap_text_segments p (chars (x ++ m ++ y))
  rw [chars_append, chars_append] at htext ⊢
  refine Segment.split htext (fun _ => text_ne_nil_of_mem_segments hp) ?_
  intro s₁ found s₂ he
  by_contra hover
  -- the letters that the match covers
  have hlen := congrArg List.length htext
  rw [he] at hlen
  simp only [List.flatMap_append, List.flatMap_cons, List.length_append, Segment.text,
    length_chars] at hlen hover
  obtain ⟨u, v, w, hcut, hu, hv⟩ := exists_cut (l := x ++ m ++ y)
    (n := (s₁.flatMap Segment.text).length) (k := found.text.length) (by
      simp only [List.length_append]
      omega)
  have hv0 : v ≠ [] := by
    have := List.length_pos_iff.2 (hp _ _ _ (match?_of_segments_eq hp he))
    exact List.length_pos_iff.1 (by omega)
  obtain ⟨c, hcv, hcm⟩ := exists_mem_of_overlap hcut.symm hv0 hm (by omega) (by omega)
  -- none of them is left
  have hkept : Segment.kept (p.segments (chars x ++ chars m ++ chars y)) (x ++ m ++ y) =
      Segment.kept s₁ u ++ Segment.kept s₂ w := by
    rw [he, hcut, List.append_assoc, Segment.kept_append hu, Segment.kept_hit_append hv]
  have hc := hsub hcm
  rw [chars_append, chars_append, hkept] at hc
  rw [hcut, List.append_assoc, List.nodup_append, List.nodup_append] at hl
  obtain ⟨-, ⟨-, -, hvw⟩, huvw⟩ := hl
  rcases List.mem_append.1 hc with hc | hc
  · exact huvw _ ((Segment.kept_sublist _ _).subset hc) _ (List.mem_append_left _ hcv) rfl
  · exact hvw _ hcv _ ((Segment.kept_sublist _ _).subset hc) rfl

/-- Letters that stand side by side and uncut when one pattern has been through, and did so side by
side before, stood uncut before as well, and the pattern does not seek them. -/
theorem uncut_of_kept (hp : p.Solid) (hclean : p.Clean) (hl : (x ++ m ++ y).Nodup) (hm : m ≠ [])
    (hk : Segment.kept (p.segments (chars (x ++ m ++ y))) (x ++ m ++ y) = a ++ m ++ b)
    (huncut : Uncut (chars a).getLast? (chars m) (chars b).head?) :
    Uncut (chars x).getLast? (chars m) (chars y).head? ∧ ¬ p.Seeks (chars m) := by
  obtain ⟨s₁, s₂, s₃, he, hs₁, hs₂, hs₃, hplain⟩ :=
    exists_segments_of_kept hp hl hm (by rw [hk]; simp)
  have hx : x.length = (s₁.flatMap Segment.text).length := by rw [hs₁, length_chars]
  have hm' : m.length = (s₂.flatMap Segment.text).length := by rw [hs₂, length_chars]
  have hkept : Segment.kept (p.segments (chars (x ++ m ++ y))) (x ++ m ++ y) =
      Segment.kept s₁ x ++ m ++ Segment.kept s₃ y := by
    rw [he, List.append_assoc, List.append_assoc x, Segment.kept_append hx,
      Segment.kept_append hm', Segment.kept_of_plain hplain hm', List.append_assoc]
  have hnodup := hl.sublist (Segment.kept_sublist (p.segments (chars (x ++ m ++ y))) _)
  rw [hk] at hkept hnodup
  obtain ⟨rfl, rfl⟩ := append_inj_of_nodup hnodup hm hkept
  rw [Segment.chars_kept hs₁.symm, Segment.chars_kept hs₃.symm] at huncut
  have hm0 : chars m ≠ [] := by simpa [chars] using hm
  have hbefore : Uncut (chars x).getLast? (chars m) (chars y).head? := by
    refine ⟨?_, ?_⟩
    · rintro ⟨hx, hm⟩
      refine huncut.front
        ⟨isWordAt_getLast?_deleted hp hclean (he.trans (List.append_assoc ..)) ?_ ?_, hm⟩
      · rwa [hs₁]
      · rwa [List.flatMap_append, hs₂, List.head?_append_of_ne_nil _ hm0]
    · rintro ⟨hm, hy⟩
      refine huncut.back ⟨hm, isWordAt_head?_deleted hp hclean he ?_ ?_⟩
      · rwa [List.flatMap_append, hs₂, List.getLast?_append_of_ne_nil _ hm0]
      · rwa [hs₃]
  refine ⟨hbefore, fun hseeks => hseeks _ _ hbefore ?_⟩
  -- the first of the letters has been passed over
  cases s₂ with
  | nil => exact absurd hs₂.symm hm0
  | cons s s₂ =>
    cases s with
    | hit found => exact absurd List.mem_cons_self (hplain found)
    | plain c =>
      have hnone : p.match? (s₁.flatMap Segment.text).getLast?
          (c :: (s₂ ++ s₃).flatMap Segment.text) = none :=
        found_of_segments_eq hp (s := .plain c) (by rw [he]; simp)
      have hrest : c :: (s₂ ++ s₃).flatMap Segment.text = chars m ++ chars y := by
        rw [← hs₂, ← hs₃]
        simp [Segment.text]
      rwa [hs₁, hrest] at hnone

end

/-! ### One pattern after another -/

/-- The letters that are left when the matches of the patterns have been deleted. -/
def keptLetters : List Pattern → List Letter → List Letter
  | [], l => l
  | p :: ps, l => keptLetters ps (Segment.kept (p.segments (chars l)) l)

theorem keptLetters_sublist (ps : List Pattern) (l : List Letter) :
    (keptLetters ps l).Sublist l := by
  induction ps generalizing l with
  | nil => exact List.Sublist.refl l
  | cons p ps ih => exact (ih _).trans (Segment.kept_sublist _ l)

theorem chars_keptLetters (ps : List Pattern) (l : List Letter) :
    chars (keptLetters ps l) = (Edit.substituteAll .delete ps (chars l)).1 := by
  induction ps generalizing l with
  | nil => rfl
  | cons p ps ih =>
    rw [keptLetters, ih, Edit.substituteAll_cons_fst, replaceAll_fst,
      Segment.chars_kept (flatMap_text_segments p (chars l)).symm]

/-- Letters that are left, stand uncut at the end and stood side by side at the start are not what
one of the patterns seeks: what it seeks and is still there has been brought together. -/
theorem not_seeks_of_kept {ps : List Pattern} (hps : ∀ p ∈ ps, p.Solid ∧ p.Clean)
    {l m a b : List Letter} (hl : l.Nodup) (hm : m ≠ []) (hside : m <:+: l)
    (hk : keptLetters ps l = a ++ m ++ b)
    (huncut : Uncut (chars a).getLast? (chars m) (chars b).head?) :
    ∀ p ∈ ps, ¬ p.Seeks (chars m) := by
  suffices h : (∃ x y, l = x ++ m ++ y ∧ Uncut (chars x).getLast? (chars m) (chars y).head?) ∧
      ∀ p ∈ ps, ¬ p.Seeks (chars m) from h.2
  induction ps generalizing l with
  | nil => exact ⟨⟨a, b, hk, huncut⟩, by simp⟩
  | cons p ps ih =>
    have hsub := Segment.kept_sublist (p.segments (chars l)) l
    have hmem : m ⊆ Segment.kept (p.segments (chars l)) l := fun c hc =>
      (keptLetters_sublist ps _).subset (by rw [← keptLetters, hk]; simp [hc])
    obtain ⟨⟨x', y', hk', huncut'⟩, hps'⟩ :=
      ih (fun q hq => hps q (List.mem_cons_of_mem _ hq)) (hl.sublist hsub)
        (infix_of_sublist hl hsub hside hmem) hk
    obtain ⟨x, y, rfl⟩ := hside
    obtain ⟨hsolid, hclean⟩ := hps p List.mem_cons_self
    obtain ⟨hbefore, hp⟩ := uncut_of_kept hsolid hclean hl hm hk' huncut'
    refine ⟨⟨x, y, rfl, hbefore⟩, fun q hq => ?_⟩
    rcases List.mem_cons.1 hq with rfl | hq
    · exact hp
    · exact hps' q hq

end Pattern

end VectorFamily
