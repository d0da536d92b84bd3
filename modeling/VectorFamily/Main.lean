import VectorFamily.CommandLine.Run

/-!
# The program

The command on the files of the machine. Nothing is decided here: the operations of the file system
are those of the machine, and what a run printed is printed.
-/

namespace VectorFamily.FileSystem

/-- The cause behind an error number of the machine, which may come with its sign turned. -/
def Cause.ofCode (code : UInt32) (details : String) : Cause :=
  match (min code (0 - code)).toNat with
  | 2 => notFound
  | 16 => busy
  | 17 => alreadyExists
  | 20 => notDirectory
  | 21 => isDirectory
  | 22 => invalidArgument
  | 36 => nameTooLong
  | 39 => notEmpty
  | n => system (details ++ " (os error " ++ toString n ++ ")")

/-- The cause behind an error of the machine. -/
def Cause.ofError : IO.Error → Cause
  | .alreadyExists _ code details | .otherError code details | .resourceBusy code details
  | .resourceVanished code details | .unsupportedOperation code details
  | .hardwareFault code details | .unsatisfiedConstraints code details
  | .illegalOperation code details | .protocolError code details | .timeExpired code details
  | .interrupted _ code details | .noFileOrDirectory _ code details
  | .invalidArgument _ code details | .permissionDenied _ code details
  | .resourceExhausted _ code details | .inappropriateType _ code details
  | .noSuchThing _ code details => ofCode code details
  | .unexpectedEof => system "failed to fill whole buffer"
  | .userError message => system message

/-- An operation of the machine on a path, with the cause if it fails. -/
def onMachine {α : Type} (path : String) (op : IO α) : ExceptT Cause IO α :=
  ExceptT.mk do
    if path.contains '\x00' then pure (.error .zeroInName)
    else
      match ← op.toBaseIO with
      | .ok a => pure (.ok a)
      | .error e => pure (.error (.ofError e))

/-- There is a directory at the path. Every directory holds itself under the name `.`, so that name
is in use exactly if the directory is there. -/
def isDirectoryOnMachine (path : String) : IO Bool := do
  match ← (onMachine path (IO.FS.createDir (path ++ "/."))).run with
  | .error .alreadyExists => pure true
  | _ => pure false

instance : FileSystem IO where
  makeDirectory path := onMachine path (IO.FS.createDir path)
  makeEnding := do
    let bytes ← IO.getRandomBytes 6
    pure (Vector.ofFn fun k => Ending.place (bytes.toList.getD k.val 0).toNat)
  isDirectory := isDirectoryOnMachine
  readText path := do
    let bytes ← onMachine path (IO.FS.readBinFile path)
    match String.fromUTF8? bytes with
    | some s => pure s
    | none => throw .notText
  writeText path contents := onMachine path (IO.FS.writeFile path contents)
  moveFile source target := onMachine (source ++ target) (IO.FS.rename source target)
  removeDirectory path := onMachine path (IO.FS.removeDirAll path)

end VectorFamily.FileSystem

/-- Runs the command with the given arguments. -/
def main (args : List String) : IO UInt32 := do
  let outcome ← VectorFamily.CommandLine.run args
  outcome.lines.forM IO.println
  IO.eprint outcome.complaint
  pure outcome.exitCode.toUInt32
