import VectorFamily.Proofs.Registry.Accepted

/-!
# Well-formed registries

`Registry.WellFormed` says of the strings themselves what a registry has to be, without reference to
the checks and their order. `Registry.new_spec` says that just such registries are accepted, and
that a class tag finds its profile in them.
-/

namespace VectorFamily

/-- A fragment of an ASCII identifier that cannot be read as part of a number before it. -/
structure IsTag (tag : String) : Prop where
  nonempty : tag ≠ ""
  ascii : ∀ ch ∈ tag.toList, ch.isAlphanum = true ∨ ch = '_'
  notDigit : ∀ ch ∈ tag.toList.head?, ch.isDigit = false

/-- The string has a character that is no white space. -/
def HasText (s : String) : Prop := ∃ ch ∈ s.toList, Unicode.isBlank ch = false

theorem tagDefect?_eq_none_iff {tag : String} : tagDefect? tag = none ↔ IsTag tag := by
  constructor
  · intro h
    have hword := isAsciiWord_of_tagDefect?_eq_none h
    refine ⟨?_, fun ch hch => by simpa [Unicode.isAsciiWord] using hword ch hch, fun ch hch => ?_⟩
    · rintro rfl
      cases h
    · unfold tagDefect? at h
      cases hlist : tag.toList with
      | nil => simp [hlist] at hch
      | cons d ds =>
        obtain rfl : d = ch := by simpa [hlist] using hch
        rw [hlist] at h
        cases hdigit : d.isDigit with
        | false => rfl
        | true => simp [hdigit] at h
  · rintro ⟨hne, hascii, hdigit⟩
    unfold tagDefect?
    cases hlist : tag.toList with
    | nil => exact absurd (String.toList_eq_nil_iff.1 hlist) hne
    | cons d ds =>
      rw [hlist] at hascii hdigit
      have hall : (d :: ds).all Unicode.isAsciiWord = true :=
        List.all_eq_true.2 fun ch hch => by simpa [Unicode.isAsciiWord] using hascii ch hch
      simp [hdigit d rfl, hall]

theorem isBlankString_eq_false_iff {s : String} : isBlankString s = false ↔ HasText s := by
  simp [isBlankString, Text.isAllBlank, HasText]

theorem foldCase_eq_iff {s t : String} : foldCase s = foldCase t ↔ s.toLower = t.toLower := by
  have hlower : ∀ s : String, s.toLower.toList = foldCase s := by
    intro s
    show (s.map Char.toLower).toList = s.toList.map Char.toLower
    exact String.toList_map
  rw [← hlower, ← hlower, String.toList_inj]

namespace Conventions

/-- Conventions by which files and classes can be named. -/
structure WellFormed (c : Conventions) : Prop where
  text : ∀ s ∈ [c.classPrefix, c.symbol, c.classTag, c.fileTag, c.defaultLiteral, c.range,
    c.exportToken, c.genericParameter, c.interfaceExtension, c.implementationExtension], HasText s
  classTag : IsTag c.classTag
  fileTag : IsTag c.fileTag
  extensions : c.interfaceExtension ≠ c.implementationExtension

theorem check_eq_ok_iff_wellFormed {c : Conventions} : c.check = .ok () ↔ c.WellFormed := by
  have htext : (∀ x ∈ c.required, isBlankString x.2 = false) ↔
      ∀ s ∈ c.required.map (·.2), HasText s := by
    simp only [List.forall_mem_map, isBlankString_eq_false_iff]
  rw [check_eq_ok_iff, htext, tagDefect?_eq_none_iff, tagDefect?_eq_none_iff]
  exact ⟨fun ⟨htext, hclass, hfile, hext⟩ => ⟨htext, hclass, hfile, hext⟩,
    fun ⟨htext, hclass, hfile, hext⟩ => ⟨htext, hclass, hfile, hext⟩⟩

end Conventions

namespace Profile

/-- A profile whose values can stand where they are used. -/
structure WellFormed (p : Profile) : Prop where
  classTag : IsTag p.classTag
  fileTag : IsTag p.fileTag
  symbol : HasText p.symbol
  defaultLiteral : HasText p.defaultLiteral
  range : HasText p.range
  byteSize : p.byteSize ≠ 0

theorem defect?_eq_none_iff {p : Profile} : p.defect? = none ↔
    HasText p.symbol ∧ HasText p.defaultLiteral ∧ HasText p.range ∧ p.byteSize ≠ 0 := by
  simp only [defect?, ← isBlankString_eq_false_iff]
  cases isBlankString p.symbol <;> cases isBlankString p.defaultLiteral <;>
    cases isBlankString p.range <;> simp

theorem check_eq_ok_iff_wellFormed {p : Profile} : p.check = .ok () ↔ p.WellFormed := by
  rw [check_eq_ok_iff, tagDefect?_eq_none_iff, tagDefect?_eq_none_iff, defect?_eq_none_iff]
  exact ⟨fun ⟨hclass, hfile, hsymbol, hliteral, hrange, hsize⟩ =>
      ⟨hclass, hfile, hsymbol, hliteral, hrange, hsize⟩,
    fun ⟨hclass, hfile, hsymbol, hliteral, hrange, hsize⟩ =>
      ⟨hclass, hfile, hsymbol, hliteral, hrange, hsize⟩⟩

end Profile

namespace Registry

/-- Profiles that can be generated side by side from a template. File tags are compared without
regard to the case of ASCII letters. -/
structure WellFormed (c : Conventions) (ps : List Profile) : Prop where
  conventions : c.WellFormed
  nonempty : ps ≠ []
  profiles : ∀ p ∈ ps, p.WellFormed
  classTags : ps.Pairwise fun p q => p.classTag ≠ q.classTag
  notCanonical : ∀ p ∈ ps, p.classTag ≠ c.classTag
  fileTags : ps.Pairwise fun p q => p.fileTag.toLower ≠ q.fileTag.toLower
  notReserved : ∀ p ∈ ps, p.fileTag.toLower ≠ c.fileTag.toLower ∧
    p.fileTag.toLower ≠ c.genericParameter.toLower
  labels : ∀ p ∈ ps,
    p.includeLabel = c.classPrefix ++ p.fileTag ++ "." ++ c.interfaceExtension

theorem checkTags_reservedTags_eq_ok_iff {c : Conventions} {ps : List Profile} :
    checkTags c (reservedTags c) ps = .ok () ↔ (∀ p ∈ ps, p.classTag ≠ c.classTag) ∧
      (ps.Pairwise fun p q => p.fileTag.toLower ≠ q.fileTag.toLower) ∧
      ∀ p ∈ ps, p.fileTag.toLower ≠ c.fileTag.toLower ∧
        p.fileTag.toLower ≠ c.genericParameter.toLower := by
  rw [checkTags_eq_ok_iff, List.Nodup, List.pairwise_map]
  simp only [reservedTags, List.mem_cons, List.not_mem_nil, or_false, not_or, ne_eq,
    foldCase_eq_iff, and_comm]

theorem accepted_iff_wellFormed {c : Conventions} {ps : List Profile} :
    Accepted c ps ↔ WellFormed c ps := by
  constructor
  · rintro ⟨hindexed, hconventions, hnonempty, hprofiles, htags, hlabels⟩
    obtain ⟨hcanonical, hfiles, hreserved⟩ := checkTags_reservedTags_eq_ok_iff.1 htags
    exact ⟨Conventions.check_eq_ok_iff_wellFormed.1 hconventions, hnonempty,
      fun p hp => Profile.check_eq_ok_iff_wellFormed.1 (hprofiles p hp),
      exists_index_iff.1 hindexed, hcanonical, hfiles, hreserved, hlabels⟩
  · rintro ⟨hconventions, hnonempty, hprofiles, hclass, hcanonical, hfiles, hreserved, hlabels⟩
    exact ⟨exists_index_iff.2 hclass,
      Conventions.check_eq_ok_iff_wellFormed.2 hconventions, hnonempty,
      fun p hp => Profile.check_eq_ok_iff_wellFormed.2 (hprofiles p hp),
      checkTags_reservedTags_eq_ok_iff.2 ⟨hcanonical, hfiles, hreserved⟩, hlabels⟩

/-- Just the well-formed registries are accepted. An accepted one has the given conventions and
profiles, and its index has each profile at its position, under its class tag, and nothing else. So
a class tag finds the only profile that has it, and nothing just if there is none. -/
theorem new_spec (c : Conventions) (ps : List Profile) :
    ((∃ r, new c ps = .ok r) ↔ WellFormed c ps) ∧
    ∀ r, new c ps = .ok r → r.conventions = c ∧ r.profiles = ps ∧ ∀ tag : String,
      (∀ i, r.byTag.get? tag = some i ↔ ∃ p, ps[i]? = some p ∧ p.classTag = tag) ∧
      (∀ p, r.lookup tag = some p ↔ p ∈ ps ∧ ∀ q ∈ ps, q.classTag = tag ↔ q = p) ∧
      (r.lookup tag = none ↔ ∀ p ∈ ps, p.classTag ≠ tag) := by
  refine ⟨exists_new_iff.trans accepted_iff_wellFormed, fun r hr => ?_⟩
  obtain ⟨rfl, rfl, hindex, -⟩ := new_eq_ok_iff.1 hr
  have h : Indexes r.byTag r.profiles := indexes_of_index hindex
  exact ⟨rfl, rfl, fun tag => ⟨h tag, fun _ => lookup_eq_some_iff h, lookup_eq_none_iff h⟩⟩

end Registry

end VectorFamily
