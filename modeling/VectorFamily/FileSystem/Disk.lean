import VectorFamily.FileSystem.Basic

/-!
# Disks

A file system as a value: what stands at each location around a working directory. Locations are
lists of names, outermost first. Outside of the working directory they start with `..`, or with `/`
if the path does: where the working directory itself is, the disk does not know. Paths are resolved
name by name, every name but the last being that of a directory.

What the entries allow can still go wrong: a disk may be full, a permission missing, a device
broken. So programs run on a `Machine`, a disk together with all that goes wrong, and an operation
that goes wrong may have done a part of its work.
-/

namespace VectorFamily

open FileSystem

/-- The names from the working directory to a file or directory. -/
abbrev Location := List String

/-- What stands at a location. -/
inductive Entry where
  | directory
  | text (contents : String)
  /-- A file whose bytes are not the UTF-8 form of a text. -/
  | binary (bytes : List UInt8)
deriving DecidableEq, Repr

def Entry.ofBytes (bytes : ByteArray) : Entry :=
  match String.fromUTF8? bytes with
  | some s => .text s
  | none => .binary bytes.toList

/-- The entries around a working directory. -/
structure Disk where
  entries : List (Location × Entry) := []
deriving DecidableEq, Repr, Inhabited

namespace Disk

/-- The working directory, a directory that it is in, or the root. -/
def isOutward (l : Location) : Bool := l.all fun n => n == ".." || n == "/"

/-- What stands at a location; the working directory and those that it is in are directories. -/
def entryAt (d : Disk) (l : Location) : Option Entry :=
  if isOutward l then some .directory else d.entries.lookup l

def put (d : Disk) (l : Location) (e : Entry) : Disk :=
  ⟨(l, e) :: d.entries.filter (·.1 ≠ l)⟩

def erase (d : Disk) (l : Location) : Disk := ⟨d.entries.filter (·.1 ≠ l)⟩

/-- The disk without a location and everything below it. -/
def prune (d : Disk) (l : Location) : Disk := ⟨d.entries.filter fun e => !l.isPrefixOf e.1⟩

/-! ### Resolving paths -/

/-- A name may have this many bytes. -/
def maxName : Nat := 255

/-- A path may have this many bytes. -/
def maxPath : Nat := 4095

/-- Where following a path begins. -/
def start (path : String) : Location := if path.startsWith "/" then ["/"] else []

/-- The directory that a directory is in; the root is in itself. -/
def above (l : Location) : Location :=
  if l = ["/"] then l else if isOutward l then l ++ [".."] else l.dropLast

def walk (d : Disk) (l : Location) : List String → Except Cause Location
  | [] => .ok l
  | n :: ns =>
    if n = "." then walk d l ns
    else if n = ".." then walk d (above l) ns
    else if maxName < n.utf8ByteSize then .error .nameTooLong
    else
      match d.entryAt (l ++ [n]) with
      | some .directory => walk d (l ++ [n]) ns
      | some _ => .error .notDirectory
      | none => .error .notFound

/-- What a path leads to: a directory that its last step stays in or goes up to, or a name in a
directory, with a slash behind it or without. -/
inductive Target where
  | here (l : Location)
  | child (parent : Location) (name : String) (slash : Bool)
deriving DecidableEq, Repr

/-- Follows a path up to its last name, which is not looked up. -/
def approach (d : Disk) (path : String) : Except Cause Target :=
  if path.contains '\x00' then .error .zeroInName
  else if path.isEmpty then .error .notFound
  else if maxPath < path.utf8ByteSize then .error .nameTooLong
  else
    match (names path).reverse with
    | [] => .ok (.here (start path))
    | n :: way => do
      let parent ← d.walk (start path) way.reverse
      if n = "." then pure (.here parent)
      else if n = ".." then pure (.here (above parent))
      else pure (.child parent n (path.endsWith "/"))

/-- A name can be looked up in a directory only if it is not too long. -/
def Target.checkName : Target → Except Cause Unit
  | .here _ => .ok ()
  | .child _ name _ => if maxName < name.utf8ByteSize then .error .nameTooLong else .ok ()

/-- Follows a path up to its last name, which can be looked up. -/
def resolve (d : Disk) (path : String) : Except Cause Target := do
  let target ← d.approach path
  target.checkName
  pure target

def Target.location : Target → Location
  | .here l => l
  | .child parent name _ => parent ++ [name]

/-! ### Operations -/

def makeDirectory (d : Disk) (path : String) : Except Cause Disk := do
  let target ← d.resolve path
  match d.entryAt target.location with
  | some _ => throw .alreadyExists
  | none => pure (d.put target.location .directory)

def isDirectory (d : Disk) (path : String) : Bool :=
  match d.resolve path with
  | .ok target => d.entryAt target.location = some .directory
  | .error _ => false

def readText (d : Disk) (path : String) : Except Cause String := do
  let target ← d.resolve path
  match d.entryAt target.location with
  | none => throw .notFound
  | some .directory => throw .isDirectory
  | some file =>
    match target, file with
    | .child _ _ true, _ => throw .notDirectory
    | _, .text s => pure s
    | _, _ => throw .notText

/-- Gives a file new contents, making it if there is none. A slash behind the name is refused before
the name is looked up. -/
def writeFile (d : Disk) (path : String) (file : Entry) : Except Cause Disk := do
  match ← d.approach path with
  | .here _ => throw .isDirectory
  | .child _ _ true => throw .isDirectory
  | .child parent name false =>
    Target.checkName (.child parent name false)
    if d.entryAt (parent ++ [name]) = some .directory then throw .isDirectory
    else pure (d.put (parent ++ [name]) file)

def moveFile (d : Disk) (source target : String) : Except Cause Disk := do
  let s ← d.resolve source
  let t ← d.resolve target
  match s, t with
  | .here _, _ => throw .busy
  | _, .here _ => throw .busy
  | .child _ _ slash, .child _ _ slash' =>
    match d.entryAt s.location with
    | none => throw .notFound
    | some .directory => throw .isDirectory
    | some file =>
      if slash || slash' then throw .notDirectory
      -- the target is a directory on the way to the source, so there is something in it
      else if t.location.isPrefixOf s.location && t.location ≠ s.location then throw .notEmpty
      else if d.entryAt t.location = some .directory then throw .isDirectory
      else pure ((d.erase s.location).put t.location file)

def remove (d : Disk) (path : String) : Except Cause Disk := do
  let target ← d.resolve path
  match target, d.entryAt target.location with
  | _, none => throw .notFound
  | .here _, some _ => throw .invalidArgument
  | .child _ _ _, some .directory => pure (d.prune target.location)
  | .child _ _ slash, some _ =>
    if slash then throw .notDirectory else pure (d.erase target.location)

/-- What is below a directory, as paths from there, a directory before what is in it and with a
slash behind it. -/
def tree (d : Disk) (path : String) : Except Cause (List String) := do
  let target ← d.resolve path
  match d.entryAt target.location with
  | none => throw .notFound
  | some .directory =>
    let below := d.entries.filterMap fun (l, e) =>
      (target.location.isPrefixOf? l).bind fun rest =>
        -- such a location goes up again, out of the directory
        if isOutward (rest.take 1) then none else some (rest, e)
    pure <| (below.mergeSort fun a b => !b.1.lex a.1 (· < ·)).map fun (rest, e) =>
      "/".intercalate rest ++ if e = .directory then "/" else ""
  | some _ => throw .notDirectory

/-! ### Operations that stop on the way -/

/-- The disk when writing a file has failed: nothing has happened yet, or the file has been made
empty and one byte less than `progress` has been written. -/
def writePart (d : Disk) (path contents : String) : Nat → Disk
  | 0 => d
  | written + 1 =>
    let file := Entry.ofBytes (contents.toUTF8.extract 0 written)
    (d.writeFile path file).toOption.getD d

/-- The disk when removing a directory has failed: what has gone is marked, and a directory has gone
only if all in it has. -/
def removePart (d : Disk) (path : String) (marked : Location → Bool) : Disk :=
  match d.resolve path with
  | .ok target =>
    ⟨d.entries.filter fun e =>
      !(target.location.isPrefixOf e.1 &&
        d.entries.all fun below => !e.1.isPrefixOf below.1 || marked below.1)⟩
  | .error _ => d

end Disk

/-! ### Machines -/

/-- What can go wrong. -/
inductive Operation where
  | makeDirectory
  | isDirectory
  | readText
  | writeText
  | moveFile
  | removeDirectory
deriving DecidableEq, Repr

/-- An operation goes wrong. -/
structure Mishap where
  cause : Cause
  /-- How far a file is written. -/
  progress : Nat := 0
  /-- What is removed with a directory that stays. -/
  marked : Location → Bool := fun _ => false

/-- A disk in a machine. What goes wrong, and which endings are made up, depends on how many there
were before. -/
structure Machine where
  disk : Disk
  mishap? : Nat → Operation → Option Mishap := fun _ _ => none
  ending : Nat → Ending := Ending.ofNat
  /-- The number of operations so far. -/
  clock : Nat := 0
  /-- The number of endings so far. -/
  drawn : Nat := 0

namespace Machine

/-- The machine when an operation has left the disk. -/
def after (m : Machine) (d : Disk) : Machine := { m with disk := d, clock := m.clock + 1 }

/-- An operation that changes the disk or fails and leaves it, unless it goes wrong. -/
def perform {α : Type} (op : Operation) (f : Disk → Except Cause (α × Disk))
    (part : Mishap → Disk → Disk) : ExceptT Cause (StateM Machine) α :=
  .mk fun m =>
    match m.mishap? m.clock op with
    | some mishap => pure (.error mishap.cause, m.after (part mishap m.disk))
    | none =>
      match f m.disk with
      | .ok (a, d) => pure (.ok a, m.after d)
      | .error cause => pure (.error cause, m.after m.disk)

end Machine

namespace Disk

/-- Computations that may change the disk of a machine. -/
abbrev Change := StateM Machine

/-- Runs a computation on a disk if nothing goes wrong that the disk does not show. -/
def Change.run {α : Type} (program : Change α) (d : Disk) : α × Disk :=
  let (a, m) := StateT.run program { disk := d }
  (a, m.disk)

open Machine (perform)

instance : FileSystem Change where
  makeDirectory path :=
    perform .makeDirectory (fun d => (d.makeDirectory path).map ((), ·)) fun _ d => d
  makeEnding := modifyGet fun m => (m.ending m.drawn, { m with drawn := m.drawn + 1 })
  -- there is no directory as far as one can tell
  isDirectory path :=
    (·.toOption.getD false) <$>
      (perform .isDirectory (fun d => .ok (d.isDirectory path, d)) fun _ d => d).run
  readText path := perform .readText (fun d => (d.readText path).map (·, d)) fun _ d => d
  writeText path contents :=
    perform .writeText (fun d => (d.writeFile path (.text contents)).map ((), ·))
      fun mishap d => d.writePart path contents mishap.progress
  moveFile source target :=
    perform .moveFile (fun d => (d.moveFile source target).map ((), ·)) fun _ d => d
  removeDirectory path :=
    perform .removeDirectory (fun d => (d.remove path).map ((), ·))
      fun mishap d => d.removePart path mishap.marked

/-! ### What the operations on locations do -/

theorem entryAt_put_self (d : Disk) (l : Location) (e : Entry) (h : isOutward l = false) :
    (d.put l e).entryAt l = some e := by
  simp [entryAt, put, h]

end Disk

end VectorFamily
