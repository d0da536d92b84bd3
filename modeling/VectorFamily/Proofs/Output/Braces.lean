import VectorFamily.Proofs.Output.Order
import VectorFamily.Proofs.Specialization.Frame
import VectorFamily.Proofs.Template.Sections
import VectorFamily.Proofs.Text.LineEnds
import VectorFamily.Proofs.Text.Nesting

/-!
# The braces of the artifacts

A file of the canonical pair keeps its curly braces when it is read, and no rule touches one. So an
artifact has the braces of its source in their order, and is balanced just if the source is
(`braces_of_run`).
-/

namespace VectorFamily

open Text (Balanced balanced_iff nesting nesting_cons brace_of_ne)

def isBrace (c : Char) : Bool := c == '\x7b' || c == '\x7d'

theorem isBrace_eq_false_iff {c : Char} : isBrace c = false ↔ c ≠ '\x7b' ∧ c ≠ '\x7d' := by
  rw [isBrace, Bool.or_eq_false_iff, beq_eq_false_iff_ne, beq_eq_false_iff_ne]

theorem foreign_isBrace : Foreign isBrace := by
  refine ⟨fun c hc => ?_⟩
  rcases Bool.or_eq_true_iff.1 hc with hc | hc <;> obtain rfl := beq_iff_eq.1 hc <;> rfl

theorem stringsAvoid_isBrace_iff {ss : List String} :
    StringsAvoid isBrace ss ↔ ∀ s ∈ ss, '\x7b' ∉ s.toList ∧ '\x7d' ∉ s.toList := by
  refine forall_congr' fun s => forall_congr' fun _ => ?_
  simp only [Text.Avoids, isBrace_eq_false_iff]
  exact ⟨fun h => ⟨fun hc => (h _ hc).1 rfl, fun hc => (h _ hc).2 rfl⟩, fun h c hc =>
    ⟨fun he => h.1 (he ▸ hc), fun he => h.2 (he ▸ hc)⟩⟩

/-! ### The braces decide -/

theorem Text.nesting_filter_isBrace (t : Text) : nesting (t.filter isBrace) = nesting t := by
  induction t with
  | nil => rfl
  | cons c t ih =>
    cases hc : isBrace c with
    | true => rw [List.filter_cons_of_pos hc, nesting_cons, nesting_cons, ih]
    | false =>
      obtain ⟨hopen, hclose⟩ := isBrace_eq_false_iff.1 hc
      rw [List.filter_cons_of_neg (by simp [hc]), nesting_cons, brace_of_ne hopen hclose,
        Nesting.level_append, ih]

theorem Text.balanced_congr {t u : Text} (h : t.filter isBrace = u.filter isBrace) :
    Balanced t ↔ Balanced u := by
  rw [balanced_iff, balanced_iff, ← nesting_filter_isBrace t, ← nesting_filter_isBrace u, h]

theorem Master.filter_source {P : Char → Bool} (hP : P '\r' = false) {c : Conventions}
    {source : ArtifactKind → Text} {m : Master}
    (hm : ofSources c (source .interface) (source .implementation) = .ok m) (kind : ArtifactKind) :
    (m.source kind).filter P = (source kind).filter P := by
  have hlocated := ofSources_eq_ok_iff.1 hm
  cases kind with
  | interface => rw [Master.source, hlocated.interface, Text.filter_normalizeNewlines hP]
  | implementation => rw [Master.source, hlocated.implementation, Text.filter_normalizeNewlines hP]

/-! ### Artifacts -/

namespace Generator

/-- Where no string of the conventions or of the profile holds a brace, an artifact has the braces
of its source, and those of the file of the pair that it is rendered from. -/
theorem braces_of_run {c : Conventions} {p : Profile}
    (hstrings : ∀ s ∈ c.strings ++ p.strings, '\x7b' ∉ s.toList ∧ '\x7d' ∉ s.toList)
    (keepExport : Bool) (kind : ArtifactKind) :
    (∀ source out, Specialization.run ⟨c, p, keepExport⟩ kind source = .ok out →
      out.filter isBrace = source.filter isBrace ∧ (Balanced out ↔ Balanced source)) ∧
    ∀ (source : ArtifactKind → Text) (m : Master),
      Master.ofSources c (source .interface) (source .implementation) = .ok m →
      ∀ (r : Registry) (a : Artifact), r.conventions = c →
        renderArtifact ⟨r, m, keepExport⟩ p kind = .ok a →
        a.contents.toList.filter isBrace = (source kind).filter isBrace ∧
          (Balanced a.contents.toList ↔ Balanced (source kind)) := by
  have hall := List.forall_mem_append.1 hstrings
  have hfilter : ∀ source out, Specialization.run ⟨c, p, keepExport⟩ kind source = .ok out →
      out.filter isBrace = source.filter isBrace := fun source out =>
    Specialization.filter_run foreign_isBrace (stringsAvoid_isBrace_iff.2 hall.1)
      (stringsAvoid_isBrace_iff.2 hall.2)
  refine ⟨fun source out hrun => ?_, fun source m hm r a hr ha => ?_⟩
  · have hsame := hfilter source out hrun
    exact ⟨hsame, Text.balanced_congr hsame⟩
  · obtain ⟨hrun, -⟩ := renderArtifact_eq_ok_iff.1 ha
    rw [specialization, hr] at hrun
    have hsame := (hfilter _ _ hrun).trans (Master.filter_source rfl hm kind)
    exact ⟨hsame, Text.balanced_congr hsame⟩

/-- An implementation that closes a brace before it opens one stays as unbalanced as it is. -/
theorem braces_of_run_short :
    (∀ s ∈ (shortConventions "T").strings ++ shortProfile.strings,
      '\x7b' ∉ s.toList ∧ '\x7d' ∉ s.toList) ∧
    (∃ out, Specialization.run ⟨shortConventions "T", shortProfile, false⟩ .implementation
        "\x7d PFO_API S V2d\x7b Bytes: 1 Range: r VD.h".toList = .ok out ∧
      out.filter isBrace = "\x7d\x7b".toList ∧ ¬ Balanced out) ∧
    ∀ kind, ∃ a, (shortGenerator "T").renderArtifact shortProfile kind = .ok a ∧
      Balanced a.contents.toList := by
  have hstrings : ∀ s ∈ (shortConventions "T").strings ++ shortProfile.strings,
      '\x7b' ∉ s.toList ∧ '\x7d' ∉ s.toList := by
    decide
  refine ⟨hstrings, ?_, fun kind => ?_⟩
  · have hrun : Specialization.run ⟨shortConventions "T", shortProfile, false⟩ .implementation
        "\x7d PFO_API S V2d\x7b Bytes: 1 Range: r VD.h".toList =
          .ok "\x7d Q V2q\x7b Bytes: 2 Range: w VA.h".toList := by
      decide +kernel
    obtain ⟨hsame, hbalanced⟩ := (braces_of_run hstrings false .implementation).1 _ _ hrun
    exact ⟨_, hrun, hsame, fun h => absurd (hbalanced.1 h) (by decide)⟩
  · have hm : Master.ofSources (shortConventions "T") (shortMaster.source .interface)
        (shortMaster.source .implementation) = .ok shortMaster := by
      decide +kernel
    have hok : ((shortGenerator "T").renderArtifact shortProfile kind).isOk = true := by
      cases kind <;> decide +kernel
    have hsource : Balanced (shortMaster.source kind) := by
      cases kind <;> decide +kernel
    obtain ⟨a, ha⟩ := exists_of_isOk hok
    obtain ⟨-, hbalanced⟩ := (braces_of_run hstrings true kind).2 _ _ hm _ _ rfl ha
    exact ⟨a, ha, hbalanced.2 hsource⟩

end Generator

end VectorFamily
