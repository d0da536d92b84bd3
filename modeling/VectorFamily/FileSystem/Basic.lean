import VectorFamily.Text.Quoted

/-!
# File systems

What the generator asks of a file system, as a class over the monad in which it runs. The same
programs run on the files of the machine and on a `Machine`, which is a value.
-/

namespace VectorFamily

namespace FileSystem

/-- Why an operation on a path fails. -/
inductive Cause where
  | notFound
  | busy
  | alreadyExists
  | notDirectory
  | isDirectory
  | invalidArgument
  | nameTooLong
  | notEmpty
  | zeroInName
  | notText
  | system (text : String)
deriving DecidableEq, Repr, Inhabited

namespace Cause

def message : Cause → String
  | notFound => "No such file or directory (os error 2)"
  | busy => "Device or resource busy (os error 16)"
  | alreadyExists => "File exists (os error 17)"
  | notDirectory => "Not a directory (os error 20)"
  | isDirectory => "Is a directory (os error 21)"
  | invalidArgument => "Invalid argument (os error 22)"
  | nameTooLong => "File name too long (os error 36)"
  | notEmpty => "Directory not empty (os error 39)"
  | zeroInName => "file name contained an unexpected NUL byte"
  | notText => "stream did not contain valid UTF-8"
  | system text => text

def atPath (c : Cause) (path : String) : Cause :=
  .system (c.message ++ " at path " ++ quoted path)

end Cause

/-- The end of a name that is made up: the places of six letters or digits among all of them. -/
abbrev Ending := Vector (Fin 62) 6

namespace Ending

/-- The digits come first, and capital letters before small ones. -/
def char (i : Fin 62) : Char :=
  if i < 10 then Char.ofNat (48 + i) else if i < 36 then Char.ofNat (55 + i)
  else Char.ofNat (61 + i)

def text (e : Ending) : String := String.ofList (e.toList.map char)

/-- The place that a number stands for. -/
def place (n : Nat) : Fin 62 := ⟨n % 62, Nat.mod_lt n (by decide)⟩

/-- The ending that a number has. -/
def ofNat (n : Nat) : Ending := Vector.ofFn fun k => place (n / Nat.pow 62 k.val)

end Ending

/-! ### Paths -/

/-- The path of `name` as seen from `dir`. An absolute name stays as it is, and no slash is
doubled. -/
def join (dir name : String) : String :=
  if name.startsWith "/" || dir.isEmpty then name
  else if dir.endsWith "/" then dir ++ name
  else dir ++ "/" ++ name

/-- The names that a path goes through. -/
def names (path : String) : List String :=
  ((path.toList.splitOnP (· == '/')).filter (· ≠ [])).map String.ofList

/-- The names that a path goes through, without those that stay in place; the first name is kept. -/
def steps (path : String) : List String :=
  match names path with
  | [] => []
  | n :: ns =>
    let onward := ns.filter (· ≠ ".")
    if path.startsWith "/" && n == "." then onward else n :: onward

end FileSystem

open FileSystem in
/-- The operations of a file system. A path that does not start with a slash is relative to a
directory that stays the same. -/
class FileSystem (m : Type → Type) where
  /-- Makes one directory. -/
  makeDirectory (path : String) : ExceptT Cause m Unit
  /-- Makes up the end of a name. -/
  makeEnding : m Ending
  /-- There is a directory at the path. -/
  isDirectory (path : String) : m Bool
  /-- The contents of a file. -/
  readText (path : String) : ExceptT Cause m String
  /-- Gives a file new contents, making it if there is none. -/
  writeText (path contents : String) : ExceptT Cause m Unit
  /-- Moves a file, over another one if there is one. -/
  moveFile (source target : String) : ExceptT Cause m Unit
  /-- Removes a directory with everything in it. -/
  removeDirectory (path : String) : ExceptT Cause m Unit

namespace FileSystem

variable {m : Type → Type} [Monad m] [FileSystem m]

/-- Makes a directory, which may be there already. -/
def ensureDirectory (path : String) : ExceptT Cause m Unit :=
  tryCatch (makeDirectory path) fun cause => do
    unless ← (isDirectory path : m Bool) do throw cause

/-- Makes a directory and those on the way to it, where `above` are the steps of the path in
reverse, its own included. -/
def makeWay (path : String) (root : String) : List String → ExceptT Cause m Unit
  | [] => unless path.isEmpty do ensureDirectory path
  | _ :: above =>
    unless path.isEmpty do
      tryCatch (makeDirectory path) fun cause => do
        -- what is missing is the directory that this one is in
        if cause = .notFound then
          makeWay (root ++ "/".intercalate above.reverse) root above
          ensureDirectory path
        else
          unless ← (isDirectory path : m Bool) do throw cause

/-- Makes a directory and those on the way to it, as far as they are missing. -/
def makeDirectories (path : String) : ExceptT Cause m Unit :=
  makeWay path (if path.startsWith "/" then "/" else "") (steps path).reverse

/-- So many names are tried before giving up. -/
def scratchAttempts : Nat := 65536

def tryScratch (parent namePrefix : String) : Nat → ExceptT Cause m String
  | 0 => throw ((Cause.system "too many temporary files exist").atPath parent)
  | attempts + 1 => do
    let ending ← (makeEnding : m Ending)
    let path := join parent (namePrefix ++ ending.text)
    tryCatch (do makeDirectory path; pure path) fun cause =>
      if cause = .alreadyExists then tryScratch parent namePrefix attempts
      else throw (cause.atPath path)

/-- Makes a directory of a new name in `parent`, and gives its path. A name that is in use is given
up for another one. -/
def makeScratch (parent namePrefix : String) : ExceptT Cause m String :=
  tryScratch parent namePrefix scratchAttempts

end FileSystem

end VectorFamily
