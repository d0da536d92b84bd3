import VectorFamily.Template.Layout

/-!
# Lines that are markers

No two markers have the same comment, whatever the conventions, since the arity is a part of it. So
a line is at most one marker, and what a scan has seen of a marker are the offsets of the lines that
are that marker.
-/

namespace VectorFamily.Marker

variable (c : Conventions)

def offsets (ls : List Line) (m : Marker) : List Nat :=
  (ls.filter fun l => l.text.trim == (m.comment c).toList).map (·.offset)

variable {c} {m m' : Marker}

theorem mem_all_iff : m ∈ all ↔ m = finish ∨ ∃ n ∈ arities, m = arity n := by
  simp only [all, List.mem_append, List.mem_map, List.mem_singleton]
  constructor
  · rintro (⟨n, hn, rfl⟩ | rfl)
    · exact .inr ⟨n, hn, rfl⟩
    · exact .inl rfl
  · rintro (rfl | ⟨n, hn, rfl⟩)
    · exact .inr rfl
    · exact .inl ⟨n, hn, rfl⟩

/-- The comment of a marker for an arity has the arity between the prefix and the tag. -/
theorem toList_comment_arity (n : Nat) : ((arity n).comment c).toList =
    "// ".toList ++ c.classPrefix.toList ++ Nat.toDigits 10 n ++ c.classTag.toList := by
  simp [comment, Conventions.className, Conventions.genericClassName, Nat.toList_repr]

theorem toDigits_injOn {n n' : Nat} (hn : n ∈ arities) (hn' : n' ∈ arities)
    (h : Nat.toDigits 10 n = Nat.toDigits 10 n') : n = n' := by
  have all : ∀ n ∈ arities, ∀ n' ∈ arities, Nat.toDigits 10 n = Nat.toDigits 10 n' → n = n' := by
    decide
  exact all n hn n' hn' h

theorem comment_arity_ne_finish {n : Nat} (hn : n ∈ arities) :
    ((arity n).comment c).toList ≠ (finish.comment c).toList := by
  have digit : (arities.all fun n => (Nat.toDigits 10 n).any fun d => d ∉ endMarker.toList) =
      true := by decide
  simp only [List.all_eq_true, List.any_eq_true, decide_eq_true_eq] at digit
  obtain ⟨d, hd, hnot⟩ := digit n hn
  intro h
  rw [toList_comment_arity] at h
  have hmem : d ∈ endMarker.toList := by
    rw [← show finish.comment c = endMarker from rfl, ← h]
    simp [hd]
  exact hnot hmem

theorem comment_injOn (hm : m ∈ all) (hm' : m' ∈ all)
    (h : (m.comment c).toList = (m'.comment c).toList) : m = m' := by
  rcases mem_all_iff.1 hm with rfl | ⟨n, hn, rfl⟩
  · rcases mem_all_iff.1 hm' with rfl | ⟨n', hn', rfl⟩
    · rfl
    · exact absurd h.symm (comment_arity_ne_finish hn')
  · rcases mem_all_iff.1 hm' with rfl | ⟨n', hn', rfl⟩
    · exact absurd h (comment_arity_ne_finish hn)
    · rw [toList_comment_arity, toList_comment_arity, List.append_cancel_right_eq,
        List.append_cancel_left_eq] at h
      rw [toDigits_injOn hn hn' h]

theorem mem_all_of_ofLine? {line : Text} (h : ofLine? c line = some m) : m ∈ all :=
  List.mem_of_find?_eq_some h

theorem ofLine?_eq_some_iff (hm : m ∈ all) {line : Text} :
    ofLine? c line = some m ↔ line.trim = (m.comment c).toList := by
  constructor
  · intro h
    have := List.find?_some h
    simpa using (beq_iff_eq.1 this).symm
  · intro h
    unfold ofLine?
    cases hf : all.find? fun m => (m.comment c).toList == line.trim with
    | none =>
      have := List.find?_eq_none.1 hf m hm
      simp [h] at this
    | some m' =>
      have hm' := List.mem_of_find?_eq_some hf
      have hc : (m'.comment c).toList = line.trim := by simpa using List.find?_some hf
      rw [comment_injOn hm' hm (hc.trans h)]

/-! ### What is seen of a marker -/

theorem offsets_cons (hm : m ∈ all) (l : Line) (ls : List Line) : offsets c (l :: ls) m =
    if ofLine? c l.text = some m then l.offset :: offsets c ls m else offsets c ls m := by
  by_cases h : l.text.trim = (m.comment c).toList
  · rw [if_pos ((ofLine?_eq_some_iff hm).2 h)]
    simp [offsets, h]
  · rw [if_neg fun he => h ((ofLine?_eq_some_iff hm).1 he)]
    simp [offsets, h]

theorem lookup_sightings (hm : m ∈ all) (ls : List Line) :
    (sightings c ls).lookup m = (offsets c ls m).head? := by
  induction ls with
  | nil => rfl
  | cons l ls ih =>
    rw [offsets_cons hm]
    cases hl : ofLine? c l.text with
    | none => simpa [sightings, hl] using ih
    | some m' =>
      by_cases hmm : m' = m
      · simp [sightings, hl, hmm]
      · have hmm' : (m == m') = false := beq_eq_false_iff_ne.2 fun he => hmm he.symm
        simpa [sightings, hl, hmm, hmm', List.lookup_cons] using ih

theorem count_sightings (hm : m ∈ all) (ls : List Line) :
    ((sightings c ls).map (·.1)).count m = (offsets c ls m).length := by
  induction ls with
  | nil => rfl
  | cons l ls ih =>
    rw [offsets_cons hm]
    cases hl : ofLine? c l.text with
    | none => simpa [sightings, hl] using ih
    | some m' =>
      by_cases hmm : m' = m
      · simpa [sightings, hl, hmm] using ih
      · simpa [sightings, hl, hmm] using ih

theorem mem_all_of_mem_sightings {ls : List Line} (hm : m ∈ (sightings c ls).map (·.1)) :
    m ∈ all := by
  obtain ⟨s, hs, rfl⟩ := List.mem_map.1 hm
  obtain ⟨l, -, hl⟩ := List.mem_filterMap.1 hs
  obtain ⟨m', hm', rfl⟩ := Option.map_eq_some_iff.1 hl
  exact mem_all_of_ofLine? hm'

end VectorFamily.Marker
