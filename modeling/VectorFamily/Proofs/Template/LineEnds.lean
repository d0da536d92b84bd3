import VectorFamily.Proofs.FileSystem.Change
import VectorFamily.Proofs.Output.Names
import VectorFamily.Proofs.Template.Sections
import VectorFamily.Proofs.Text.LineEnds

/-!
# Line ends of the canonical pair

The pair is normalized before anything of it is looked at. How the line feeds of its files are
spelled, each one by itself, is therefore lost when it is read (`ofSources_respelled`).
-/

namespace VectorFamily

open FileSystem Disk Text

namespace Master

variable {c : Conventions} {interface implementation interface' implementation' : Text}

/-- The directory holds the two texts under the names of the canonical pair. -/
structure HeldIn (d : Disk) (dir : String) (c : Conventions) (interface implementation : Text) :
    Prop where
  interface : d.readText (join dir (masterFileName c .interface)) = .ok (String.ofList interface)
  implementation : d.readText (join dir (masterFileName c .implementation)) =
    .ok (String.ofList implementation)

theorem outcome_readSource {w : Machine} {dir : String} {kind : ArtifactKind} {t : Text}
    (hspare : w.Spares .readText)
    (h : w.disk.readText (join dir (masterFileName c kind)) = .ok (String.ofList t)) :
    outcome (readSource c dir kind) w = (.ok t, w.after w.disk) := by
  refine (outcome_lift_run_bind (FileSystem.readText _) _ w).trans ?_
  rw [outcome_readText hspare, h]
  simp

/-- Reading leaves the disk as it is. -/
theorem outcome_load {w : Machine} {dir : String} (hspare : w.Spares .readText)
    (h : HeldIn w.disk dir c interface implementation) :
    outcome (load c dir) w = (ofSources c interface implementation, w.later w.disk 2) := by
  rw [load, outcome_bind, outcome_readSource hspare h.interface]
  show outcome (readSource c dir .implementation >>= _) (w.after w.disk) = _
  rw [outcome_bind, outcome_readSource (w := w.after w.disk) hspare h.implementation]
  rfl

/-- Carriage returns in front of any of the line feeds of a pair without returns change nothing:
the pair is accepted with the same texts and parts or refused with the same failure, also when it
is read from a directory, and what is rendered from it is the same. -/
theorem ofSources_respelled (hplain : '\r' ∉ interface ∧ '\r' ∉ implementation)
    (hinterface : Respelled interface interface')
    (himplementation : Respelled implementation implementation') :
    ofSources c interface' implementation' = ofSources c interface implementation ∧
    (∀ m, ofSources c interface' implementation' = .ok m →
      m.interface = interface ∧ m.implementation = implementation) ∧
    ∀ (r : Registry) (keepExport : Bool), r.conventions = c →
      (∀ (w w' : Machine) dir, w.Spares .readText → w'.Spares .readText →
        HeldIn w.disk dir c interface implementation →
        HeldIn w'.disk dir c interface' implementation' →
        ∃ read, outcome (Generator.load r dir keepExport) w = (read, w.later w.disk 2) ∧
          outcome (Generator.load r dir keepExport) w' = (read, w'.later w'.disk 2)) ∧
      (ofSources c interface' implementation' >>= fun m =>
        (⟨r, m, keepExport⟩ : Generator).render) =
        ofSources c interface implementation >>= fun m =>
          (⟨r, m, keepExport⟩ : Generator).render := by
  have hi := normalizeNewlines_of_respelled hinterface hplain.1
  have hj := normalizeNewlines_of_respelled himplementation hplain.2
  have hsame : ofSources c interface' implementation' = ofSources c interface implementation := by
    rw [ofSources, ofSources, hi, hj, normalizeNewlines_of_not_mem hplain.1,
      normalizeNewlines_of_not_mem hplain.2]
  refine ⟨hsame, fun m hm => ?_, fun r keepExport hr =>
    ⟨fun w w' dir hspare hspare' hd hd' => ?_, by rw [hsame]⟩⟩
  · have hlocated := ofSources_eq_ok_iff.1 hm
    exact ⟨hlocated.interface.trans hi, hlocated.implementation.trans hj⟩
  · subst hr
    refine ⟨(ofSources r.conventions interface implementation).map (⟨r, ·, keepExport⟩), ?_, ?_⟩
    · rw [Generator.load, outcome_bind, outcome_load hspare hd]
      cases ofSources r.conventions interface implementation <;> rfl
    · rw [Generator.load, outcome_bind, outcome_load hspare' hd', hsame]
      cases ofSources r.conventions interface implementation <;> rfl

/-- Some line feeds of the pair have a return, others have none. -/
theorem ofSources_respelled_mixed :
    ('\r' ∉ Generator.shortInterface ∧ '\r' ∉ Generator.shortImplementation) ∧
    ofSources (Generator.shortConventions "T")
      ("S 0.0 Bytes: 1 Range: r\r\n// overloads for the << operator\ninline static V2d\r\n" ++
        "// End\n").toList
      ("namespace N \x7b\r\n".toList ++ Generator.shortImplementation.drop 14) =
        .ok Generator.shortMaster := by
  have hplain : '\r' ∉ Generator.shortInterface ∧ '\r' ∉ Generator.shortImplementation := by
    decide +kernel
  refine ⟨hplain, ?_⟩
  rw [(ofSources_respelled hplain ((normalizeNewlines_eq_iff hplain.1).1 (by decide +kernel))
    ((normalizeNewlines_eq_iff hplain.2).1 (by decide +kernel))).1]
  decide +kernel

end Master

end VectorFamily
