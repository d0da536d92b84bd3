/-!
# Repeated elements
-/

namespace VectorFamily

/-- The first element that occurs in `seen` or earlier in the list. -/
def firstRepeat? {α : Type _} [BEq α] (seen : List α) : List α → Option α
  | [] => none
  | a :: as => if seen.contains a then some a else firstRepeat? (a :: seen) as

theorem firstRepeat?_eq_none_iff {α : Type _} [BEq α] [LawfulBEq α] {seen as : List α} :
    firstRepeat? seen as = none ↔ as.Nodup ∧ ∀ a ∈ as, a ∉ seen := by
  induction as generalizing seen with
  | nil => simp [firstRepeat?]
  | cons a as ih =>
    by_cases h : a ∈ seen
    · simp [firstRepeat?, h]
    · simp only [firstRepeat?, List.contains_iff_mem, h, ↓reduceIte, ih, List.nodup_cons,
        List.mem_cons, not_or]
      constructor
      · rintro ⟨hn, hs⟩
        exact ⟨⟨fun ha => (hs a ha).1 rfl, hn⟩, by
          rintro b (rfl | hb)
          · exact h
          · exact (hs b hb).2⟩
      · rintro ⟨⟨ha, hn⟩, hs⟩
        exact ⟨hn, fun b hb => ⟨fun hba => ha (hba ▸ hb), hs b (.inr hb)⟩⟩

theorem one_lt_count_of_firstRepeat? {α : Type _} [BEq α] [LawfulBEq α] {seen as : List α} {a : α}
    (h : firstRepeat? seen as = some a) : 1 < (seen ++ as).count a := by
  induction as generalizing seen with
  | nil => simp [firstRepeat?] at h
  | cons b as ih =>
    rw [firstRepeat?] at h
    split at h
    · next hb =>
      obtain rfl := Option.some.inj h
      have := List.count_pos_iff.2 (List.contains_iff_mem.1 hb)
      rw [List.count_append, List.count_cons_self]
      omega
    · have := ih h
      rw [List.count_append, List.count_cons] at this ⊢
      omega

end VectorFamily
