import VectorFamily.Output.Commit
import VectorFamily.FileSystem.Disk

/-!
# Runs on a machine

What a program gives and leaves when it runs on a machine, one lemma for each way of putting
programs together and for each operation. An operation that succeeds has done to the disk what it is
for; one that fails has left the disk, unless it was stopped on the way.
-/

namespace VectorFamily

open FileSystem

namespace Machine

variable {m : Machine} {op : Operation} {n : Nat}

@[simp] theorem disk_after (m : Machine) (d : Disk) : (m.after d).disk = d := rfl

@[simp] theorem mishap?_after (m : Machine) (d : Disk) : (m.after d).mishap? = m.mishap? := rfl

@[simp] theorem clock_after (m : Machine) (d : Disk) : (m.after d).clock = m.clock + 1 := rfl

/-- The machine some operations later. -/
def later (m : Machine) (d : Disk) (n : Nat) : Machine :=
  { m with disk := d, clock := m.clock + n }

@[simp] theorem disk_later (m : Machine) (d : Disk) (n : Nat) : (m.later d n).disk = d := rfl

@[simp] theorem mishap?_later (m : Machine) (d : Disk) (n : Nat) :
    (m.later d n).mishap? = m.mishap? :=
  rfl

theorem later_zero (m : Machine) : m.later m.disk 0 = m := rfl

theorem later_after (m : Machine) (d d' : Disk) (n : Nat) :
    (m.after d).later d' n = m.later d' (n + 1) := by
  simp [later, after, Nat.add_assoc, Nat.add_comm 1]

/-- No operation of the kind goes wrong. -/
def Spares (m : Machine) (op : Operation) : Prop := ∀ n, m.mishap? n op = none

/-- Nothing goes wrong that the disk does not show. -/
def Quiet (m : Machine) : Prop := ∀ op, m.Spares op

/-- The next `n` operations do not go wrong if they are of the kind. -/
def Clear (m : Machine) (op : Operation) (n : Nat) : Prop :=
  ∀ i < n, m.mishap? (m.clock + i) op = none

theorem clear_zero (m : Machine) (op : Operation) : m.Clear op 0 := fun _ h => absurd h (by omega)

theorem clear_succ_iff {d : Disk} : m.Clear op (n + 1) ↔
    m.mishap? m.clock op = none ∧ (m.after d).Clear op n := by
  have hnext : ∀ i, m.clock + 1 + i = m.clock + (i + 1) := by omega
  constructor
  · intro h
    refine ⟨h 0 (by omega), fun i hi => ?_⟩
    rw [mishap?_after, clock_after, hnext]
    exact h (i + 1) (by omega)
  · rintro ⟨hfirst, hrest⟩ i hi
    cases i with
    | zero => exact hfirst
    | succ i =>
      have := hrest i (by omega)
      rwa [mishap?_after, clock_after, hnext] at this

end Machine

namespace Disk

variable {δ ε α β : Type}

/-- What a program gives on a machine, and the machine that it leaves. -/
def outcome (x : ExceptT ε Change α) (m : Machine) : Except ε α × Machine := StateT.run x.run m

@[simp] theorem outcome_pure (a : α) (m : Machine) :
    outcome (pure a : ExceptT ε Change α) m = (.ok a, m) :=
  rfl

@[simp] theorem outcome_mk_pure (r : Except ε α) (m : Machine) :
    outcome (ExceptT.mk (pure r) : ExceptT ε Change α) m = (r, m) :=
  rfl

theorem outcome_bind (x : ExceptT ε Change α) (f : α → ExceptT ε Change β) (m : Machine) :
    outcome (x >>= f) m =
      match outcome x m with
      | (.ok a, m') => outcome (f a) m'
      | (.error e, m') => (.error e, m') := by
  rcases hx : outcome x m with ⟨_ | _, _⟩
  all_goals
    show StateT.run (x.run >>= ExceptT.bindCont f) m = _
    rw [StateT.run_bind, show StateT.run x.run m = _ from hx]
    rfl

theorem outcome_bind_eq_ok_iff {x : ExceptT ε Change α} {f : α → ExceptT ε Change β}
    {m m' : Machine} {b : β} : outcome (x >>= f) m = (.ok b, m') ↔
      ∃ a m₁, outcome x m = (.ok a, m₁) ∧ outcome (f a) m₁ = (.ok b, m') := by
  rw [outcome_bind]
  rcases outcome x m with ⟨e | a, m₁⟩
  · simp
  · simp only [Prod.mk.injEq, Except.ok.injEq]
    exact ⟨fun h => ⟨a, m₁, ⟨rfl, rfl⟩, h⟩, fun ⟨_, _, ⟨rfl, rfl⟩, h⟩ => h⟩

/-- A sequence fails when one of its parts does, and then goes no further. -/
theorem outcome_bind_eq_error_iff {x : ExceptT ε Change α} {f : α → ExceptT ε Change β}
    {m m' : Machine} {e : ε} : outcome (x >>= f) m = (.error e, m') ↔
      outcome x m = (.error e, m') ∨
        ∃ a m₁, outcome x m = (.ok a, m₁) ∧ outcome (f a) m₁ = (.error e, m') := by
  rw [outcome_bind]
  rcases outcome x m with ⟨e' | a, m₁⟩
  · simp
  · simp only [Prod.mk.injEq, Except.ok.injEq, reduceCtorEq, false_and, false_or]
    exact ⟨fun h => ⟨a, m₁, ⟨rfl, rfl⟩, h⟩, fun ⟨_, _, ⟨rfl, rfl⟩, h⟩ => h⟩

theorem outcome_tryCatch (x : ExceptT ε Change α) (h : ε → ExceptT ε Change α) (m : Machine) :
    outcome (tryCatch x h) m =
      match outcome x m with
      | (.ok a, m') => (.ok a, m')
      | (.error e, m') => outcome (h e) m' := by
  show (match (outcome x m).1 with
    | .ok a => fun m' => (Except.ok a, m')
    | .error e => outcome (h e)) (outcome x m).2 = _
  rcases outcome x m with ⟨_ | _, _⟩ <;> rfl

theorem outcome_tryCatch_bind_pure (x : ExceptT ε Change β) (a : α) (h : ε → ExceptT ε Change α)
    (m : Machine) :
    outcome (tryCatch (x >>= fun _ => pure a) h) m =
      match outcome x m with
      | (.ok _, m') => (.ok a, m')
      | (.error e, m') => outcome (h e) m' := by
  rw [outcome_tryCatch, outcome_bind]
  rcases outcome x m with ⟨_ | _, _⟩ <;> rfl

theorem outcome_lift_run (x : ExceptT δ Change α) (m : Machine) :
    outcome (ExceptT.lift x.run : ExceptT ε Change (Except δ α)) m =
      (.ok (outcome x m).1, (outcome x m).2) :=
  rfl

theorem outcome_lift_run_bind (x : ExceptT δ Change α) (f : Except δ α → ExceptT ε Change β)
    (m : Machine) :
    outcome (ExceptT.lift x.run >>= f) m = outcome (f (outcome x m).1) (outcome x m).2 := by
  rw [outcome_bind, outcome_lift_run]

theorem outcome_writing (path : String) (op : ExceptT Cause Change α) (m : Machine) :
    outcome (OutputSet.writing path op) m =
      match outcome op m with
      | (.ok a, m') => (.ok a, m')
      | (.error cause, m') => (.error (.notWritten path cause), m') := by
  rcases hop : outcome op m with ⟨_ | _, _⟩
  all_goals
    show StateT.run (op.run >>= _) m = _
    rw [StateT.run_bind, show StateT.run op.run m = _ from hop]
    rfl

theorem outcome_writing_eq_ok_iff {path : String} {op : ExceptT Cause Change α} {m m' : Machine}
    {a : α} : outcome (OutputSet.writing path op) m = (.ok a, m') ↔ outcome op m = (.ok a, m') := by
  rw [outcome_writing]
  rcases outcome op m with ⟨_ | _, _⟩ <;> simp

theorem outcome_writing_eq_error_iff {path : String} {op : ExceptT Cause Change α} {m m' : Machine}
    {e : Failure} : outcome (OutputSet.writing path op) m = (.error e, m') ↔
      ∃ cause, e = .notWritten path cause ∧ outcome op m = (.error cause, m') := by
  rw [outcome_writing]
  rcases outcome op m with ⟨cause | _, _⟩
  · simp only [Prod.mk.injEq, Except.error.injEq]
    exact ⟨fun ⟨he, hm⟩ => ⟨cause, he.symm, rfl, hm⟩, fun ⟨_, he, hc, hm⟩ => ⟨hc ▸ he.symm, hm⟩⟩
  · simp

/-! ### Operations -/

section
variable {op : Operation} {f : Disk → Except Cause (α × Disk)} {g : Disk → Except Cause Disk}
  {part : Mishap → Disk → Disk} {m m' : Machine} {a : α} {u : Unit} {cause : Cause}

theorem outcome_perform (op : Operation) (f : Disk → Except Cause (α × Disk))
    (part : Mishap → Disk → Disk) (m : Machine) :
    outcome (Machine.perform op f part) m =
      match m.mishap? m.clock op with
      | some mishap => (.error mishap.cause, m.after (part mishap m.disk))
      | none =>
        match f m.disk with
        | .ok (a, d) => (.ok a, m.after d)
        | .error cause => (.error cause, m.after m.disk) := by
  show (match m.mishap? m.clock op with
    | some mishap => (.error mishap.cause, m.after (part mishap m.disk))
    | none =>
      match f m.disk with
      | .ok (a, d) => (.ok a, m.after d)
      | .error cause => (.error cause, m.after m.disk) : Except Cause α × Machine) = _
  rcases m.mishap? m.clock op with _ | _
  · rcases f m.disk with _ | ⟨_, _⟩ <;> rfl
  · rfl

/-- An operation succeeds if it does so on the disk and does not go wrong. -/
theorem outcome_perform_eq_ok_iff : outcome (Machine.perform op f part) m = (.ok a, m') ↔
    m.mishap? m.clock op = none ∧ ∃ d, f m.disk = .ok (a, d) ∧ m' = m.after d := by
  rw [outcome_perform]
  rcases m.mishap? m.clock op with _ | mishap
  · rcases f m.disk with cause | ⟨b, d⟩
    · simp
    · simp only [Prod.mk.injEq, Except.ok.injEq, true_and]
      exact ⟨fun ⟨hb, hm⟩ => ⟨d, ⟨hb, rfl⟩, hm.symm⟩, fun ⟨_, ⟨hb, hd⟩, hm⟩ => ⟨hb, hd ▸ hm.symm⟩⟩
  · simp

/-- An operation fails because it goes wrong, and then it may be stopped on the way, or because of
the disk. -/
theorem outcome_perform_eq_error_iff : outcome (Machine.perform op f part) m = (.error cause, m') ↔
    (∃ mishap, m.mishap? m.clock op = some mishap ∧ cause = mishap.cause ∧
      m' = m.after (part mishap m.disk)) ∨
    m.mishap? m.clock op = none ∧ f m.disk = .error cause ∧ m' = m.after m.disk := by
  rw [outcome_perform]
  rcases m.mishap? m.clock op with _ | mishap
  · rcases f m.disk with _ | ⟨_, _⟩ <;> simp [eq_comm]
  · simp [eq_comm]

theorem outcome_perform_map_eq_ok_iff :
    outcome (Machine.perform op (fun d => (g d).map ((), ·)) part) m = (.ok u, m') ↔
      m.mishap? m.clock op = none ∧ ∃ d, g m.disk = .ok d ∧ m' = m.after d := by
  rw [outcome_perform_eq_ok_iff]
  refine and_congr_right fun _ => exists_congr fun d => and_congr_left fun _ => ?_
  cases g m.disk <;> simp [Except.map]

/-- An operation that cannot be stopped on the way leaves the disk when it fails. -/
theorem eq_after_of_outcome_perform_eq_error
    (h : outcome (Machine.perform op f fun _ d => d) m = (.error cause, m')) :
    m' = m.after m.disk := by
  rcases outcome_perform_eq_error_iff.1 h with ⟨_, -, -, hm⟩ | ⟨-, -, hm⟩ <;> exact hm

end

section
variable {m m' : Machine} {path target contents : String} {u : Unit} {cause : Cause}

theorem outcome_makeDirectory_eq_ok_iff :
    outcome (FileSystem.makeDirectory path : ExceptT Cause Change Unit) m = (.ok u, m') ↔
      m.mishap? m.clock .makeDirectory = none ∧
        ∃ d, m.disk.makeDirectory path = .ok d ∧ m' = m.after d :=
  outcome_perform_map_eq_ok_iff

theorem outcome_makeDirectory_of_error (hclear : m.mishap? m.clock .makeDirectory = none)
    (h : m.disk.makeDirectory path = .error cause) :
    outcome (FileSystem.makeDirectory path : ExceptT Cause Change Unit) m =
      (.error cause, m.after m.disk) :=
  outcome_perform_eq_error_iff.2 (.inr ⟨hclear, by rw [h]; rfl, rfl⟩)

theorem outcome_writeText_eq_ok_iff :
    outcome (FileSystem.writeText path contents : ExceptT Cause Change Unit) m = (.ok u, m') ↔
      m.mishap? m.clock .writeText = none ∧
        ∃ d, m.disk.writeFile path (.text contents) = .ok d ∧ m' = m.after d :=
  outcome_perform_map_eq_ok_iff

theorem outcome_moveFile_eq_ok_iff :
    outcome (FileSystem.moveFile path target : ExceptT Cause Change Unit) m = (.ok u, m') ↔
      m.mishap? m.clock .moveFile = none ∧
        ∃ d, m.disk.moveFile path target = .ok d ∧ m' = m.after d :=
  outcome_perform_map_eq_ok_iff

theorem outcome_removeDirectory_eq_ok_iff :
    outcome (FileSystem.removeDirectory path : ExceptT Cause Change Unit) m = (.ok u, m') ↔
      m.mishap? m.clock .removeDirectory = none ∧
        ∃ d, m.disk.remove path = .ok d ∧ m' = m.after d :=
  outcome_perform_map_eq_ok_iff

theorem eq_after_of_makeDirectory_eq_error
    (h : outcome (FileSystem.makeDirectory path : ExceptT Cause Change Unit) m =
      (.error cause, m')) : m' = m.after m.disk :=
  eq_after_of_outcome_perform_eq_error h

theorem eq_after_of_moveFile_eq_error
    (h : outcome (FileSystem.moveFile path target : ExceptT Cause Change Unit) m =
      (.error cause, m')) : m' = m.after m.disk :=
  eq_after_of_outcome_perform_eq_error h

/-- A write that fails may have written a part of the file. -/
theorem exists_writePart_of_writeText_eq_error
    (h : outcome (FileSystem.writeText path contents : ExceptT Cause Change Unit) m =
      (.error cause, m')) : ∃ progress, m' = m.after (m.disk.writePart path contents progress) := by
  rcases outcome_perform_eq_error_iff.1 h with ⟨mishap, -, -, rfl⟩ | ⟨-, -, rfl⟩
  · exact ⟨mishap.progress, rfl⟩
  · exact ⟨0, rfl⟩

theorem outcome_readText_snd (m : Machine) (path : String) :
    (outcome (FileSystem.readText path : ExceptT Cause Change String) m).2 = m.after m.disk := by
  show (outcome (Machine.perform _ _ _) m).2 = _
  rw [outcome_perform]
  rcases m.mishap? m.clock .readText with _ | _
  · cases m.disk.readText path <;> rfl
  · rfl

theorem outcome_readText (h : m.Spares .readText) (path : String) :
    outcome (FileSystem.readText path : ExceptT Cause Change String) m =
      (m.disk.readText path, m.after m.disk) := by
  show outcome (Machine.perform _ _ _) m = _
  rw [outcome_perform, h]
  cases m.disk.readText path <;> rfl

theorem run_isDirectory (m : Machine) (path : String) :
    StateT.run (FileSystem.isDirectory path : Change Bool) m =
      ((m.mishap? m.clock .isDirectory).isNone && m.disk.isDirectory path, m.after m.disk) := by
  let asked : ExceptT Cause Change Bool :=
    Machine.perform .isDirectory (fun d => .ok (d.isDirectory path, d)) fun _ d => d
  show ((outcome asked m).1.toOption.getD false, (outcome asked m).2) = _
  rw [outcome_perform]
  rcases m.mishap? m.clock .isDirectory with _ | _ <;> rfl

end

end Disk

end VectorFamily
