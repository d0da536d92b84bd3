import VectorFamily.Proofs.GenericHeader.Returns
import VectorFamily.Proofs.Output.Order
import VectorFamily.Proofs.Template.LineEnds

/-!
# Carriage returns of the output

The line ends of the canonical pair become single line feeds when it is read, and no rule touches a
carriage return. An artifact therefore has just the returns of its source that stand in front of no
line feed (`count_returns_of_render`): a pair with a return in front of every other line end but its
own gives outputs with line feeds only, and two returns in front of a line feed leave one.
-/

namespace VectorFamily

open Text (strayReturns)
open GenericHeader (isReturn)

theorem stringsAvoid_isReturn_iff {ss : List String} :
    StringsAvoid isReturn ss ↔ ∀ s ∈ ss, '\r' ∉ s.toList := by
  refine forall_congr' fun s => forall_congr' fun _ => ?_
  simp only [Text.Avoids, isReturn, beq_eq_false_iff_ne]
  exact ⟨fun h hmem => h _ hmem rfl, fun h c hc he => h (he ▸ hc)⟩

theorem Text.count_return (t : Text) : t.count '\r' = (t.filter isReturn).length :=
  List.countP_eq_length_filter

theorem Text.avoids_isReturn_iff {t : Text} : t.Avoids isReturn ↔ t.count '\r' = 0 := by
  rw [Text.avoids_iff_filter_eq_nil, Text.count_return, List.length_eq_zero_iff]

/-- The source of a pair that is read has the returns that stand in front of no line feed. -/
theorem Master.count_source {c : Conventions} {source : ArtifactKind → Text} {m : Master}
    (hm : ofSources c (source .interface) (source .implementation) = .ok m) (kind : ArtifactKind) :
    (m.source kind).count '\r' = strayReturns (source kind) := by
  have hlocated := ofSources_eq_ok_iff.1 hm
  cases kind with
  | interface => rw [Master.source, hlocated.interface, Text.count_normalizeNewlines]
  | implementation => rw [Master.source, hlocated.implementation, Text.count_normalizeNewlines]

theorem Specialization.count_run {s : Specialization}
    (hc : StringsAvoid isReturn s.conventions.strings)
    (hp : StringsAvoid isReturn s.profile.strings) {kind : ArtifactKind} {source out : Text}
    (hrun : s.run kind source = .ok out) : out.count '\r' = source.count '\r' := by
  rw [Text.count_return, Text.count_return, filter_run GenericHeader.foreign_isReturn hc hp hrun]

namespace Generator

/-- Each artifact of a profile has as many carriage returns as its source has in front of no line
feed. So all files are free of returns, and have no line end but the line feed, just if every return
of the pair belongs to a line end. -/
theorem count_returns_of_render {c : Conventions} {ps : List Profile} {r : Registry}
    (hr : Registry.new c ps = .ok r)
    (hstrings : ∀ s ∈ c.strings ++ ps.flatMap Profile.strings, '\r' ∉ s.toList)
    {source : ArtifactKind → Text} {m : Master}
    (hm : Master.ofSources c (source .interface) (source .implementation) = .ok m)
    {keepExport : Bool} {out : OutputSet}
    (hout : (⟨r, m, keepExport⟩ : Generator).render = .ok out) :
    (∀ p ∈ r.profiles, ∀ kind, ∃ contents, (artifactFileName c p kind, contents) ∈ out.files ∧
      contents.toList.count '\r' = strayReturns (source kind)) ∧
    ((∀ f ∈ out.files, '\r' ∉ f.2.toList) ↔
      ∀ kind pre post, source kind = pre ++ '\r' :: post → post.head? = some '\n') := by
  obtain ⟨rfl, rfl, -, haccepted⟩ := Registry.new_eq_ok_iff.1 hr
  have hall := List.forall_mem_append.1 hstrings
  have hc : StringsAvoid isReturn r.conventions.strings := stringsAvoid_isReturn_iff.2 hall.1
  have hp : ∀ p ∈ r.profiles, StringsAvoid isReturn p.strings := fun p hp =>
    stringsAvoid_isReturn_iff.2 fun s hs => hall.2 s (List.mem_flatMap.2 ⟨p, hp, hs⟩)
  have hcount : ∀ p ∈ r.profiles, ∀ kind t,
      Specialization.run ⟨r.conventions, p, keepExport⟩ kind (m.source kind) = .ok t →
        t.count '\r' = strayReturns (source kind) := fun p hmem kind t hrun =>
    (Specialization.count_run hc (hp p hmem) hrun).trans (Master.count_source hm kind)
  have hartifact : ∀ p ∈ r.profiles, ∀ kind, ∃ contents,
      (artifactFileName r.conventions p kind, contents) ∈ out.files ∧
        contents.toList.count '\r' = strayReturns (source kind) := by
    intro p hmem kind
    obtain ⟨t, hrun⟩ := exists_run_of_render hout hmem kind
    exact ⟨String.ofList t, (mem_files_of_render_iff hout).2 (.inl ⟨p, hmem, kind, t, hrun, rfl, rfl⟩),
      by rw [String.toList_ofList, hcount p hmem kind t hrun]⟩
  refine ⟨hartifact, fun hfree kind => ?_, fun hends f hf => ?_⟩
  · obtain ⟨p, hmem⟩ := List.exists_mem_of_ne_nil r.profiles haccepted.nonempty
    obtain ⟨contents, hfile, hstray⟩ := hartifact p hmem kind
    refine Text.strayReturns_eq_zero_iff.1 ?_
    rw [← hstray, List.count_eq_zero]
    exact hfree _ hfile
  · have hstray : ∀ kind, strayReturns (source kind) = 0 := fun kind =>
      Text.strayReturns_eq_zero_iff.2 (hends kind)
    rcases (mem_files_of_render_iff hout).1 hf with ⟨p, hmem, kind, t, hrun, -, hcontents⟩ | hheader
    · rw [hcontents, String.toList_ofList, ← List.count_eq_zero, hcount p hmem kind t hrun]
      exact hstray kind
    · have hsource : ∀ kind, (m.source kind).Avoids isReturn := fun kind => by
        rw [Text.avoids_isReturn_iff, Master.count_source hm, hstray]
      rw [← List.count_eq_zero, ← Text.avoids_isReturn_iff]
      exact GenericHeader.avoids_render hc (hsource .interface) (hsource .implementation)
        (Master.avoids_scope hm (hsource .implementation)) hheader

/-- The small pair with the given text at the end of the first line of the interface. -/
def returnedPair (returns : Text) : ArtifactKind → Text
  | .interface => shortInterface.take 23 ++ returns ++ shortInterface.drop 23
  | .implementation => shortImplementation

theorem returns_not_mem_short : ∀ s ∈ (shortConventions "T").strings ++
    [shortProfile].flatMap Profile.strings, '\r' ∉ s.toList := by
  decide

/-- The line end with a return is a line end without one in all files. -/
theorem count_returns_of_render_short : ∃ out,
    Registry.new (shortConventions "T") [shortProfile] = .ok (shortGenerator "T").registry ∧
    Master.ofSources (shortConventions "T") (returnedPair ['\r'] .interface)
      (returnedPair ['\r'] .implementation) = .ok shortMaster ∧
    (shortGenerator "T").render = .ok out ∧ ∀ f ∈ out.files, '\r' ∉ f.2.toList := by
  have hm : Master.ofSources (shortConventions "T") (returnedPair ['\r'] .interface)
      (returnedPair ['\r'] .implementation) = .ok shortMaster := by
    decide +kernel
  obtain ⟨out, hout⟩ := exists_render_short
  refine ⟨out, new_short, hm, hout,
    (count_returns_of_render new_short returns_not_mem_short hm hout).2.2 fun kind => ?_⟩
  refine Text.strayReturns_eq_zero_iff.1 ?_
  cases kind <;> decide +kernel

/-- Of two returns in front of a line feed one is left, and the file has the line end that was to be
gone. -/
theorem returns_kept : ∃ m out,
    Registry.new (shortConventions "T") [shortProfile] = .ok (shortGenerator "T").registry ∧
    (∀ s ∈ (shortConventions "T").strings ++ [shortProfile].flatMap Profile.strings,
      '\r' ∉ s.toList) ∧
    Master.ofSources (shortConventions "T") (returnedPair ['\r', '\r'] .interface)
      (returnedPair ['\r', '\r'] .implementation) = .ok m ∧
    render ⟨(shortGenerator "T").registry, m, true⟩ = .ok out ∧
    ∃ f ∈ out.files, "\r\n".toList <:+: f.2.toList := by
  have hm : Master.ofSources (shortConventions "T") (returnedPair ['\r', '\r'] .interface)
      (returnedPair ['\r', '\r'] .implementation) =
        .ok { shortMaster with
          interface := returnedPair ['\r'] .interface
          layout := { shortMaster.layout with helpers := (25, 76) } } := by
    decide +kernel
  generalize hmaster : ({ shortMaster with
    interface := returnedPair ['\r'] .interface
    layout := { shortMaster.layout with helpers := (25, 76) } } : Master) = m at hm
  have hrender : (render ⟨(shortGenerator "T").registry, m, true⟩).isOk = true := by
    rw [← hmaster]
    decide +kernel
  have hrun : Specialization.run ⟨shortConventions "T", shortProfile, true⟩ .interface
      (m.source .interface) = .ok ("Q 1 Bytes: 2 Range: w\r\n// overloads for the << operator\n" ++
        "inline static V2q\n// End\n").toList := by
    rw [← hmaster]
    decide +kernel
  obtain ⟨out, hout⟩ := exists_of_isOk hrender
  refine ⟨m, out, new_short, returns_not_mem_short, hm, hout, (_, String.ofList _),
    (mem_files_of_render_iff hout).2
      (.inl ⟨shortProfile, List.mem_singleton_self _, .interface, _, hrun, rfl, rfl⟩), ?_⟩
  simp only [String.toList_ofList]
  exact ⟨"Q 1 Bytes: 2 Range: w".toList,
    "// overloads for the << operator\ninline static V2q\n// End\n".toList, by decide⟩

end Generator

end VectorFamily
