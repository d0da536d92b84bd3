import VectorFamily.CommandLine.Run
import VectorFamily.Proofs.FileSystem.Tree
import VectorFamily.Proofs.Output.Commit

/-!
# Runs of the command keep trees

A run asks nothing of a file system but its operations, so it keeps what all of these keep. Whatever
the arguments are, whether it succeeds or fails and whatever goes wrong, a run that starts on a tree
leaves a tree.
-/

namespace VectorFamily

open FileSystem Disk

variable {path dir scratch : String} {I : Machine → Prop} (hI : Invariant I)
include hI

/-! ### Reading -/

theorem Registry.keeps_load :
    Keeps I (Registry.load path : ExceptT RegistryError Change Registry).run := by
  refine (hI.readText path).run_lift.run_bind fun read => ?_
  cases read <;> exact keeps_pure _

theorem Master.keeps_readSource {c : Conventions} {kind : ArtifactKind} :
    Keeps I (readSource c dir kind : ExceptT Failure Change Text).run := by
  refine (hI.readText _).run_lift.run_bind fun read => ?_
  cases read <;> exact keeps_pure _

theorem Generator.keeps_load {r : Registry} {keepExport : Bool} :
    Keeps I (Generator.load r dir keepExport : ExceptT Failure Change Generator).run := by
  refine Keeps.run_bind ?_ fun _ => keeps_pure _
  exact (Master.keeps_readSource hI).run_bind fun _ =>
    (Master.keeps_readSource hI).run_bind fun _ => keeps_pure _

/-! ### Committing -/

namespace OutputSet

/-- The scratch directory is removed in any case. -/
theorem keeps_commit (s : OutputSet) :
    Keeps I (s.commit dir : ExceptT Failure Change CommitReport).run := by
  refine hI.keeps_makeDirectories.run_writing.run_bind fun _ => ?_
  refine hI.keeps_makeScratch.run_writing.run_bind fun scratch => ?_
  refine (keeps_fill_of_invariant hI s).run_lift.run_bind fun _ => ?_
  refine (hI.removeDirectory scratch).run_writing.run_lift.run_bind fun _ => ?_
  exact Keeps.run_bind (keeps_pure _) fun _ => keeps_pure _

theorem keeps_staleAmong {fs : List (String × String)} :
    Keeps I (staleAmong dir fs : Change (List String)) := by
  induction fs with
  | nil => exact keeps_pure _
  | cons f fs ih =>
    refine Keeps.bind (hI.readText _) fun found => ih.bind fun rest => ?_
    cases found <;> exact keeps_pure _

end OutputSet

/-! ### The command -/

namespace CommandLine

theorem keeps_generate (g : Generator) : Keeps I (generate g dir : Change Outcome) := by
  refine Keeps.bind ?_ fun a => ?_
  · exact Keeps.run_bind (keeps_pure _) fun s => s.keeps_commit hI
  · cases a <;> exact keeps_pure _

theorem keeps_checkOutputs (g : Generator) : Keeps I (checkOutputs g dir : Change Outcome) := by
  unfold checkOutputs
  cases g.render with
  | error e => exact keeps_pure _
  | ok s =>
    refine (OutputSet.keeps_staleAmong hI).bind fun stale => ?_
    split <;> exact keeps_pure _

theorem keeps_loadRegistry (o : Options) :
    Keeps I (loadRegistry o : Change (Except Outcome Registry)) := by
  unfold loadRegistry
  cases o.profiles with
  | some path =>
    refine Keeps.bind (Registry.keeps_load hI) fun r => ?_
    cases r <;> exact keeps_pure _
  | none =>
    generalize Registry.builtin = builtin
    cases builtin <;> exact keeps_pure _

theorem keeps_runOptions (o : Options) : Keeps I (runOptions o : Change Outcome) := by
  unfold runOptions
  refine (keeps_loadRegistry hI o).bind fun loaded => ?_
  cases loaded with
  | error outcome => exact keeps_pure _
  | ok r =>
    refine Keeps.bind (Generator.keeps_load hI) fun g => ?_
    cases g with
    | error e => exact keeps_pure _
    | ok g =>
      show Keeps I (if o.check then checkOutputs g o.output else generate g o.output)
      split
      · exact keeps_checkOutputs hI g
      · exact keeps_generate hI g

theorem keeps_run (args : List String) : Keeps I (run args : Change Outcome) := by
  unfold run
  split
  · exact keeps_runOptions hI _
  all_goals exact keeps_pure _

omit hI in
/-- Every run leaves a tree if it starts on one. -/
theorem keepsTree_run (args : List String) :
    Keeps (·.disk.Tree) (run args : Change Outcome) :=
  keeps_run invariant_tree args

end CommandLine

end VectorFamily
