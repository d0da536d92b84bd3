import VectorFamily.Proofs.FileSystem.Change

/-!
# What programs keep

A program is put together from the operations of a file system, so what all of these keep is kept by
the program, whether it succeeds or fails and whatever goes wrong on the way.
-/

namespace VectorFamily

open FileSystem

namespace Disk

variable {ε α β : Type} {I : Machine → Prop} {path parent namePrefix : String}

/-- The program leaves a machine of the kind if it starts on one. -/
def Keeps (I : Machine → Prop) (x : Change α) : Prop := ∀ m, I m → I (StateT.run x m).2

/-! ### Putting programs together -/

theorem keeps_pure (a : α) : Keeps I (pure a) :=
  fun _ h => h

theorem Keeps.bind {x : Change α} {f : α → Change β} (hx : Keeps I x) (hf : ∀ a, Keeps I (f a)) :
    Keeps I (x >>= f) :=
  fun m h => hf (StateT.run x m).1 (StateT.run x m).2 (hx m h)

theorem Keeps.run_bind {x : ExceptT ε Change α} {f : α → ExceptT ε Change β} (hx : Keeps I x.run)
    (hf : ∀ a, Keeps I (f a).run) : Keeps I (x >>= f).run := by
  show Keeps I (x.run >>= fun
    | .ok a => (f a).run
    | .error e => pure (.error e))
  refine hx.bind fun a => ?_
  cases a with
  | ok a => exact hf a
  | error e => exact keeps_pure _

theorem Keeps.run_tryCatch {x : ExceptT ε Change α} {f : ε → ExceptT ε Change α}
    (hx : Keeps I x.run) (hf : ∀ e, Keeps I (f e).run) : Keeps I (tryCatch x f).run := by
  show Keeps I (x.run >>= fun
    | .ok a => pure (.ok a)
    | .error e => (f e).run)
  refine hx.bind fun a => ?_
  cases a with
  | ok a => exact keeps_pure _
  | error e => exact hf e

theorem Keeps.run_lift {x : Change α} (h : Keeps I x) :
    Keeps I (ExceptT.lift x : ExceptT ε Change α).run :=
  fun m hm => h m hm

theorem Keeps.run_writing {op : ExceptT Cause Change α} (h : Keeps I op.run) :
    Keeps I (OutputSet.writing path op).run := by
  refine Keeps.bind h fun a => ?_
  cases a <;> exact keeps_pure _

theorem Keeps.outcome {x : ExceptT ε Change α} (h : Keeps I x.run) {m m' : Machine}
    {r : Except ε α} (hx : outcome x m = (r, m')) (hm : I m) : I m' := by
  have hkept := h m hm
  rwa [show StateT.run x.run m = (r, m') from hx] at hkept

/-! ### Operations -/

/-- Every operation of the file system keeps the kind of machine. -/
structure Invariant (I : Machine → Prop) : Prop where
  makeDirectory path : Keeps I (FileSystem.makeDirectory path : ExceptT Cause Change Unit).run
  makeEnding : Keeps I (FileSystem.makeEnding : Change Ending)
  isDirectory path : Keeps I (FileSystem.isDirectory path : Change Bool)
  readText path : Keeps I (FileSystem.readText path : ExceptT Cause Change String).run
  writeText path contents :
    Keeps I (FileSystem.writeText path contents : ExceptT Cause Change Unit).run
  moveFile source target :
    Keeps I (FileSystem.moveFile source target : ExceptT Cause Change Unit).run
  removeDirectory path : Keeps I (FileSystem.removeDirectory path : ExceptT Cause Change Unit).run

theorem keeps_perform {op : Operation} {f : Disk → Except Cause (α × Disk)}
    {part : Mishap → Disk → Disk} (hok : ∀ m a d, I m → f m.disk = .ok (a, d) → I (m.after d))
    (hpart : ∀ m mishap, I m → I (m.after (part mishap m.disk)))
    (herror : ∀ m, I m → I (m.after m.disk)) : Keeps I (Machine.perform op f part).run := by
  intro m hm
  show I (Disk.outcome (Machine.perform op f part) m).2
  rw [outcome_perform]
  split
  · next mishap _ => exact hpart m mishap hm
  · split
    · next a d heq => exact hok m a d hm heq
    · exact herror m hm

/-- What goes wrong is up to the machine alone. -/
theorem invariant_mishap? (schedule : Nat → Operation → Option Mishap) :
    Invariant fun m => m.mishap? = schedule where
  makeDirectory _ := keeps_perform (fun _ _ _ h _ => h) (fun _ _ h => h) fun _ h => h
  makeEnding _ h := h
  isDirectory path m h := by
    rw [run_isDirectory]
    exact h
  readText _ := keeps_perform (fun _ _ _ h _ => h) (fun _ _ h => h) fun _ h => h
  writeText _ _ := keeps_perform (fun _ _ _ h _ => h) (fun _ _ h => h) fun _ h => h
  moveFile _ _ := keeps_perform (fun _ _ _ h _ => h) (fun _ _ h => h) fun _ h => h
  removeDirectory _ := keeps_perform (fun _ _ _ h _ => h) (fun _ _ h => h) fun _ h => h

/-! ### Directories -/

section
variable (hI : Invariant I)
include hI

theorem Invariant.keeps_unless_isDirectory (cause : Cause) : Keeps I
    (do unless ← (FileSystem.isDirectory path : Change Bool) do throw cause :
      ExceptT Cause Change Unit).run := by
  refine (hI.isDirectory path).run_lift.run_bind fun there => ?_
  cases there <;> exact keeps_pure _

theorem Invariant.keeps_ensureDirectory :
    Keeps I (FileSystem.ensureDirectory path : ExceptT Cause Change Unit).run :=
  (hI.makeDirectory path).run_tryCatch hI.keeps_unless_isDirectory

theorem Invariant.keeps_makeWay {root : String} {above : List String} :
    Keeps I (FileSystem.makeWay path root above : ExceptT Cause Change Unit).run := by
  induction above generalizing path with
  | nil =>
    rw [makeWay]
    split
    · exact keeps_pure _
    · exact hI.keeps_ensureDirectory
  | cons n above ih =>
    rw [makeWay]
    split
    · exact keeps_pure _
    · refine (hI.makeDirectory path).run_tryCatch fun cause => ?_
      split
      · exact ih.run_bind fun _ => hI.keeps_ensureDirectory
      · exact hI.keeps_unless_isDirectory cause

theorem Invariant.keeps_makeDirectories :
    Keeps I (FileSystem.makeDirectories path : ExceptT Cause Change Unit).run :=
  hI.keeps_makeWay

theorem Invariant.keeps_tryScratch {attempts : Nat} :
    Keeps I
      (FileSystem.tryScratch parent namePrefix attempts : ExceptT Cause Change String).run := by
  induction attempts with
  | zero => exact keeps_pure _
  | succ attempts ih =>
    rw [tryScratch]
    refine hI.makeEnding.run_lift.run_bind fun ending => ?_
    refine Keeps.run_tryCatch ((hI.makeDirectory _).run_bind fun _ => keeps_pure _) fun cause => ?_
    split
    · exact ih
    · exact keeps_pure _

theorem Invariant.keeps_makeScratch :
    Keeps I (FileSystem.makeScratch parent namePrefix : ExceptT Cause Change String).run :=
  hI.keeps_tryScratch

end

end Disk

end VectorFamily
