import VectorFamily.Output.Set
import VectorFamily.FileSystem.Basic

/-!
# Committing an output set

A set is first written to a scratch directory inside the output directory, and from there file by
file moved to its place. So a file that cannot be written leaves the output directory as it was, and
no file is ever seen half written.
-/

namespace VectorFamily

open FileSystem (Cause)

structure CommitReport where
  directory : String
  written : Nat
  digest : String
deriving DecidableEq, Repr

namespace OutputSet

variable {m : Type → Type} [Monad m] [FileSystem m]

def scratchPrefix : String := ".vecgen-staging-"

/-- Runs an operation on a path; if it fails, the path could not be written. -/
def writing {α : Type} (path : String) (op : ExceptT Cause m α) : ExceptT Failure m α :=
  ExceptT.mk do
    match ← op.run with
    | .ok a => pure (.ok a)
    | .error cause => pure (.error (.notWritten path cause))

/-- Writes every file of the list into a scratch directory. -/
def stage (scratch : String) : List (String × String) → ExceptT Failure m Unit
  | [] => pure ()
  | (name, contents) :: fs => do
    let path := FileSystem.join scratch name
    writing path (FileSystem.writeText path contents)
    stage scratch fs

/-- Moves every file of the list from a scratch directory to its place. -/
def unstage (scratch dir : String) : List (String × String) → ExceptT Failure m Unit
  | [] => pure ()
  | (name, _) :: fs => do
    let target := FileSystem.join dir name
    writing target (FileSystem.moveFile (FileSystem.join scratch name) target)
    unstage scratch dir fs

/-- Writes every file of the set into a scratch directory, and then moves each to its place. -/
def fill (s : OutputSet) (scratch dir : String) : ExceptT Failure m Unit := do
  stage scratch s.files
  unstage scratch dir s.files

/-- Writes every file of the set into a directory, which is made if it is missing. The scratch
directory is removed in any case. -/
def commit (s : OutputSet) (dir : String) : ExceptT Failure m CommitReport := do
  writing dir (FileSystem.makeDirectories dir)
  let scratch ← writing dir (FileSystem.makeScratch dir scratchPrefix)
  let filled ← ExceptT.lift (s.fill scratch dir).run
  let removed ← ExceptT.lift (writing dir (FileSystem.removeDirectory scratch)).run
  -- if both have failed, the files are what is reported
  ExceptT.mk (pure (filled.bind fun _ => removed))
  pure ⟨dir, s.size, s.digest⟩

/-- The files of the list that are missing from a directory or have other contents there. -/
def staleAmong (dir : String) : List (String × String) → m (List String)
  | [] => pure []
  | (name, contents) :: fs => do
    let found ← (FileSystem.readText (FileSystem.join dir name)).run
    let rest ← staleAmong dir fs
    match found with
    | .ok text => pure (if text = contents then rest else name :: rest)
    | .error _ => pure (name :: rest)

def staleFiles (s : OutputSet) (dir : String) : m (List String) := staleAmong dir s.files

end OutputSet

end VectorFamily
