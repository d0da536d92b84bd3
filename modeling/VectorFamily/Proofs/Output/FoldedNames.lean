import VectorFamily.Proofs.Output.CanonicalPair
import VectorFamily.Proofs.Specialization.Lines
import VectorFamily.Proofs.Specialization.Metadata

/-!
# Names of artifacts on file systems that fold case

File tags are compared without regard to the case of their letters, but the two extensions are
compared as they are. So the only artifacts of an accepted registry whose names differ in nothing
but case are the two of one profile, and only if the extensions differ in nothing but case
(`artifactFileName_toLower_spec`). Such extensions are accepted: `artifactNames_folded`.
-/

namespace VectorFamily

namespace Registry

variable {c : Conventions} {ps : List Profile}

/-- Profiles are told apart by their file tags, whatever the case of the letters. -/
theorem WellFormed.eq_of_fileTag_toLower_eq (h : WellFormed c ps) {p q : Profile} (hp : p ∈ ps)
    (hq : q ∈ ps) (htag : p.fileTag.toLower = q.fileTag.toLower) : p = q :=
  List.inj_on_of_nodup_map (List.pairwise_map.2 h.fileTags) hp hq htag

theorem WellFormed.artifactFileName_toLower_eq_iff (h : WellFormed c ps) {p q : Profile}
    (hp : p ∈ ps) (hq : q ∈ ps) (kind kind' : ArtifactKind) :
    (artifactFileName c p kind).toLower = (artifactFileName c q kind').toLower ↔
      p = q ∧ (kind.extension c).toLower = (kind'.extension c).toLower := by
  have htag : ∀ p ∈ ps, tagDefect? p.fileTag = none := fun p hp =>
    tagDefect?_eq_none_iff.2 (h.profiles p hp).fileTag
  rw [artifactFileName, artifactFileName, fileName_toLower_eq_iff (htag p hp) (htag q hq)]
  exact and_congr_left fun _ =>
    ⟨h.eq_of_fileTag_toLower_eq hp hq, fun heq => congrArg (·.fileTag.toLower) heq⟩

end Registry

/-- The names of the artifacts of an accepted registry, with the case of their letters folded, are
different for different profiles. They are all different just if the extensions are. -/
theorem artifactFileName_toLower_spec {c : Conventions} {ps : List Profile} {r : Registry}
    (hr : Registry.new c ps = .ok r) :
    (∀ p ∈ ps, ∀ q ∈ ps, ∀ kind kind' : ArtifactKind,
      (artifactFileName c p kind).toLower = (artifactFileName c q kind').toLower ↔
        p = q ∧ (kind.extension c).toLower = (kind'.extension c).toLower) ∧
    ((r.artifactNames.map String.toLower).Nodup ↔
      c.interfaceExtension.toLower ≠ c.implementationExtension.toLower) := by
  obtain ⟨rfl, rfl, -, haccepted⟩ := Registry.new_eq_ok_iff.1 hr
  have h := Registry.accepted_iff_wellFormed.1 haccepted
  have hnames := fun p hp q hq => h.artifactFileName_toLower_eq_iff (p := p) (q := q) hp hq
  refine ⟨hnames, ?_⟩
  rw [List.nodup_map_iff_inj_on haccepted.namesApart.artifacts]
  simp only [Registry.mem_artifactNames_iff]
  constructor
  · intro hinj hext
    obtain ⟨p, hp⟩ := List.exists_mem_of_ne_nil r.profiles h.nonempty
    have hsame := hinj _ ⟨p, hp, .interface, rfl⟩ _ ⟨p, hp, .implementation, rfl⟩
      ((hnames p hp p hp _ _).2 ⟨rfl, hext⟩)
    have htag := tagDefect?_eq_none_iff.2 (h.profiles p hp).fileTag
    cases (artifactFileName_inj h.conventions.extensions htag htag hsame).2
  · rintro hext _ ⟨p, hp, kind, rfl⟩ _ ⟨q, hq, kind', rfl⟩ heq
    obtain ⟨rfl, hfolded⟩ := (hnames p hp q hq kind kind').1 heq
    cases kind <;> cases kind'
    · rfl
    · exact absurd hfolded hext
    · exact absurd hfolded.symm hext
    · rfl

open VectorFamily.Specialization in
/-- Two profiles with the usual extensions. -/
theorem artifactFileName_toLower_spec_two :
    ∃ r, Registry.new {} [boolProfile, unsignedProfile] = .ok r ∧
      (r.artifactNames.map String.toLower).Nodup := by
  obtain ⟨r, hr⟩ : ∃ r, Registry.new {} [boolProfile, unsignedProfile] = .ok r :=
    exists_of_isOk (by decide +kernel)
  have hext : "h".toLower ≠ "cpp".toLower := foldCase_eq_iff.not.1 (by decide)
  exact ⟨r, hr, (artifactFileName_toLower_spec hr).2.2 hext⟩

open Generator (shortConventions shortProfile)

/-- Conventions with extensions that differ in case. -/
def foldedConventions : Conventions :=
  { shortConventions "T" with implementationExtension := "H" }

/-- With the extensions `h` and `H` both artifacts of a profile have one name when case is folded. -/
theorem artifactNames_folded : ¬ ∀ c ps r, Registry.new c ps = .ok r →
    (r.artifactNames.map String.toLower).Nodup := by
  have hr : Registry.new foldedConventions [shortProfile] =
      .ok (.single foldedConventions shortProfile) := by
    decide +kernel
  have hnames : (Registry.single foldedConventions shortProfile).artifactNames =
      ["VA.h", "VA.H"] := by
    decide +kernel
  have hsame : "VA.h".toLower = "VA.H".toLower := foldCase_eq_iff.1 (by decide)
  intro h
  have hnodup := h _ _ _ hr
  rw [hnames] at hnodup
  simp [hsame] at hnodup

end VectorFamily
