/-!
# Entries by their keys
-/

namespace VectorFamily

section
variable {α β : Type _} [BEq α] [LawfulBEq α]

theorem lookup_filter_fst (p : α → Bool) (k : α) (es : List (α × β)) :
    (es.filter fun e => p e.1).lookup k = if p k then es.lookup k else none := by
  induction es with
  | nil => simp
  | cons e es ih =>
    obtain ⟨k', b⟩ := e
    by_cases hk : k = k'
    · subst hk
      by_cases hp : p k = true
      · simp [hp]
      · simp [hp, ih]
    · have hbeq : (k == k') = false := beq_eq_false_iff_ne.2 hk
      by_cases hp : p k' = true <;> simp [hp, ih, List.lookup_cons, hbeq]

theorem lookup_eq_none_iff_notMem {k : α} {es : List (α × β)} :
    es.lookup k = none ↔ k ∉ es.map (·.1) := by
  rw [List.lookup_eq_none_iff, List.mem_map]
  constructor
  · rintro h ⟨e, he, rfl⟩
    exact bne_iff_ne.1 (h e he) rfl
  · exact fun h e he => bne_iff_ne.2 fun hk => h ⟨e, he, hk.symm⟩

theorem lookup_eq_some_iff_mem {k : α} {b : β} {es : List (α × β)}
    (h : (es.map (·.1)).Nodup) : es.lookup k = some b ↔ (k, b) ∈ es := by
  constructor
  · intro hk
    obtain ⟨pre, post, rfl, -⟩ := List.lookup_eq_some_iff.1 hk
    simp
  · intro hk
    obtain ⟨pre, post, rfl⟩ := List.append_of_mem hk
    refine List.lookup_eq_some_iff.2 ⟨pre, post, rfl, fun e he => bne_iff_ne.2 fun hke => ?_⟩
    -- the key of an earlier entry would come a second time
    rw [List.map_append, List.nodup_append] at h
    exact h.2.2 e.1 (List.mem_map_of_mem he) k (by simp) hke.symm

/-- Another value in place of those that a key has. -/
theorem lookup_map_replace [DecidableEq α] (k k' : α) (b : β) (es : List (α × β)) :
    (es.map fun e => if e.1 = k then (k, b) else e).lookup k' =
      if k' = k then (es.lookup k).map fun _ => b else es.lookup k' := by
  induction es with
  | nil => simp
  | cons e es ih =>
    obtain ⟨k'', c⟩ := e
    by_cases hk : k'' = k
    · subst hk
      by_cases hk' : k' = k''
      · simp [hk']
      · have hbeq : (k' == k'') = false := beq_eq_false_iff_ne.2 hk'
        simp [hk', ih, List.lookup_cons, hbeq]
    · by_cases hk' : k' = k
      · subst hk'
        have hbeq : (k' == k'') = false := beq_eq_false_iff_ne.2 (Ne.symm hk)
        simpa [hk, List.lookup_cons, hbeq] using ih
      · simp [hk, hk', ih, List.lookup_cons]

end

theorem map_fst_map_replace {α β : Type _} [DecidableEq α] (k : α) (b : β) (es : List (α × β)) :
    (es.map fun e => if e.1 = k then (k, b) else e).map (·.1) = es.map (·.1) := by
  rw [List.map_map]
  refine List.map_congr_left fun e _ => ?_
  show (if e.1 = k then (k, b) else e).1 = e.1
  split
  · next he => exact he.symm
  · rfl

end VectorFamily
