import VectorFamily.Proofs.Registry.Index
import VectorFamily.Proofs.Sequence

/-!
# Accepted registries

`new_eq_ok_iff` reads the conditions under which profiles are accepted off the checks.
-/

namespace VectorFamily

theorem checkTag_eq_ok_iff {role : TagRole} {tag : String} :
    checkTag role tag = .ok () ↔ tagDefect? tag = none := by
  unfold checkTag
  cases tagDefect? tag <;> simp

theorem isAsciiWord_of_tagDefect?_eq_none {tag : String} (h : tagDefect? tag = none) :
    ∀ c ∈ tag.toList, Unicode.isAsciiWord c = true := by
  unfold tagDefect? at h
  split at h
  · cases h
  · next c cs hcs =>
    rw [hcs]
    by_cases hdigit : c.isDigit
    · simp [hdigit] at h
    · by_cases hall : (c :: cs).all Unicode.isAsciiWord
      · exact List.all_eq_true.1 hall
      · simp [hdigit, hall] at h

namespace Conventions

theorem check_eq_ok_iff {c : Conventions} : c.check = .ok () ↔
    (∀ x ∈ c.required, isBlankString x.2 = false) ∧ tagDefect? c.classTag = none ∧
      tagDefect? c.fileTag = none ∧ c.interfaceExtension ≠ c.implementationExtension := by
  unfold check
  cases hblank : c.required.find? (isBlankString ·.2) with
  | some x =>
    have hx := List.find?_some hblank
    simp only [throw_ne_ok, false_iff]
    rintro ⟨h, -⟩
    rw [h x (List.mem_of_find?_eq_some hblank)] at hx
    cases hx
  | none =>
    have hnone : ∀ x ∈ c.required, isBlankString x.2 = false := by
      simpa using List.find?_eq_none.1 hblank
    rw [check_bind_eq_ok, check_bind_eq_ok, checkTag_eq_ok_iff, checkTag_eq_ok_iff]
    by_cases hext : c.interfaceExtension = c.implementationExtension
    · simp [hext, throw_ne_ok]
    · simp only [hext, ↓reduceIte, pure_eq_ok, ne_eq, not_false_eq_true, and_true]
      exact (and_iff_right hnone).symm

end Conventions

namespace Profile

theorem check_eq_ok_iff {p : Profile} : p.check = .ok () ↔
    tagDefect? p.classTag = none ∧ tagDefect? p.fileTag = none ∧ p.defect? = none := by
  rw [check, check_bind_eq_ok, check_bind_eq_ok, checkTag_eq_ok_iff, checkTag_eq_ok_iff]
  refine and_congr_right fun _ => and_congr_right fun _ => ?_
  cases p.defect? with
  | none => exact ⟨fun _ => rfl, fun _ => rfl⟩
  | some defect => simp [throw_ne_ok]

end Profile

namespace Registry

/-- Every condition under which the profiles are accepted. -/
structure Accepted (c : Conventions) (ps : List Profile) : Prop where
  indexed : ∃ byTag, index ∅ 0 ps = .ok byTag
  conventions : c.check = .ok ()
  nonempty : ps ≠ []
  profiles : ∀ p ∈ ps, p.check = .ok ()
  tags : checkTags c (reservedTags c) ps = .ok ()
  labels : ∀ p ∈ ps, p.includeLabel = c.includeLabelFor p.fileTag

theorem checkIncludeLabels_eq_ok_iff {c : Conventions} {ps : List Profile} :
    checkIncludeLabels c ps = .ok () ↔ ∀ p ∈ ps, p.includeLabel = c.includeLabelFor p.fileTag := by
  unfold checkIncludeLabels
  cases hfind : ps.find? fun p => p.includeLabel ≠ c.includeLabelFor p.fileTag with
  | none => simpa using hfind
  | some p =>
    have hne := List.find?_some hfind
    have hmem := List.mem_of_find?_eq_some hfind
    simp only [reduceCtorEq, false_iff]
    intro hall
    simp [hall p hmem] at hne

theorem checkTags_eq_ok_iff {c : Conventions} {taken : List Text} {ps : List Profile} :
    checkTags c taken ps = .ok () ↔ (∀ p ∈ ps, p.classTag ≠ c.classTag) ∧
      (ps.map fun p => foldCase p.fileTag).Nodup ∧ ∀ p ∈ ps, foldCase p.fileTag ∉ taken := by
  induction ps generalizing taken with
  | nil => simp [checkTags]
  | cons p ps ih =>
    rw [checkTags]
    by_cases hclass : p.classTag = c.classTag
    · simp [hclass]
    by_cases htaken : foldCase p.fileTag ∈ taken
    · simp [hclass, htaken]
    -- what is taken for the others is taken already, or is the tag of the first
    have hothers : (∀ q ∈ ps, foldCase q.fileTag ∉ foldCase p.fileTag :: taken) ↔
        (∀ q ∈ ps, foldCase q.fileTag ≠ foldCase p.fileTag) ∧
          ∀ q ∈ ps, foldCase q.fileTag ∉ taken := by
      simp only [List.mem_cons, not_or]
      exact ⟨fun h => ⟨fun q hq => (h q hq).1, fun q hq => (h q hq).2⟩,
        fun h q hq => ⟨h.1 q hq, h.2 q hq⟩⟩
    have hnodup : ((p :: ps).map fun p => foldCase p.fileTag).Nodup ↔
        (ps.map fun p => foldCase p.fileTag).Nodup ∧
          ∀ q ∈ ps, foldCase q.fileTag ≠ foldCase p.fileTag := by
      simp [and_comm]
    rw [if_neg hclass, if_neg (by simpa using htaken), ih, hothers, hnodup, List.forall_mem_cons,
      List.forall_mem_cons]
    simp only [hclass, htaken, ne_eq, not_false_eq_true, true_and, and_assoc]

theorem validate_eq_ok_iff {r : Registry} : r.validate = .ok () ↔
    r.conventions.check = .ok () ∧ r.profiles ≠ [] ∧ (∀ p ∈ r.profiles, p.check = .ok ()) ∧
      checkTags r.conventions (reservedTags r.conventions) r.profiles = .ok () ∧
      ∀ p ∈ r.profiles, p.includeLabel = r.conventions.includeLabelFor p.fileTag := by
  unfold validate
  simp only [check_bind_eq_ok, guard_eq_ok, forM_eq_ok, checkIncludeLabels_eq_ok_iff,
    List.isEmpty_iff, ne_eq]

/-- The registry has the given conventions and profiles, and the index of the profiles. -/
theorem new_eq_ok_iff {c : Conventions} {ps : List Profile} {r : Registry} : new c ps = .ok r ↔
    r.conventions = c ∧ r.profiles = ps ∧ index ∅ 0 ps = .ok r.byTag ∧ Accepted c ps := by
  rw [new, bind_eq_ok]
  simp only [check_bind_eq_ok, pure_eq_ok, validate_eq_ok_iff]
  constructor
  · rintro ⟨byTag, hindex, ⟨hc, hne, hps, htags, hlabels⟩, rfl⟩
    exact ⟨rfl, rfl, hindex, ⟨byTag, hindex⟩, hc, hne, hps, htags, hlabels⟩
  · rintro ⟨rfl, rfl, hindex, -, hc, hne, hps, htags, hlabels⟩
    exact ⟨r.byTag, hindex, ⟨hc, hne, hps, htags, hlabels⟩, rfl⟩

theorem exists_new_iff {c : Conventions} {ps : List Profile} :
    (∃ r, new c ps = .ok r) ↔ Accepted c ps := by
  simp only [new_eq_ok_iff]
  constructor
  · rintro ⟨r, -, -, -, h⟩
    exact h
  · intro h
    obtain ⟨byTag, hindex⟩ := h.indexed
    exact ⟨⟨c, ps, byTag⟩, rfl, rfl, hindex, h⟩

end Registry

end VectorFamily
