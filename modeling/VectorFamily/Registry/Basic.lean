import VectorFamily.Artifact
import VectorFamily.List.OrderedMap
import VectorFamily.Text.Basic
import VectorFamily.Registry.Error

/-!
# Registries

A registry is a list of profiles with the conventions of the canonical template they are derived
from. It is accepted if every value can stand where it is used and no two names fall together; file
names are compared without regard to the case of ASCII letters, since the files may land on a file
system that folds it.
-/

namespace VectorFamily

/-- Why the tag cannot stand in a name: it follows an arity, so it must go on as an identifier does
without being read as part of the number. -/
def tagDefect? (tag : String) : Option TagDefect :=
  match tag.toList with
  | [] => some .empty
  | c :: cs =>
    if c.isDigit then some .leadingDigit
    else if (c :: cs).all Unicode.isAsciiWord then none
    else some .foreignCharacter

def checkTag (role : TagRole) (tag : String) : Except RegistryError Unit :=
  match tagDefect? tag with
  | none => .ok ()
  | some defect => .error (.invalidTag role tag defect)

/-- The string has no character other than white space. -/
def isBlankString (s : String) : Bool := Text.isAllBlank s.toList

/-- The string with its ASCII letters in lower case. -/
def foldCase (s : String) : Text := s.toList.map Char.toLower

namespace Conventions

/-- Accepts conventions by which files and classes can be named. -/
def check (c : Conventions) : Except RegistryError Unit := do
  match c.required.find? (isBlankString ·.2) with
  | some (field, _) => throw (.blankConvention field)
  | none =>
    checkTag .canonicalClassTag c.classTag
    checkTag .canonicalFileTag c.fileTag
    if c.interfaceExtension = c.implementationExtension then throw .equalExtensions

end Conventions

namespace Profile

/-- What is wrong with the values of a profile, its tags apart. -/
def defect? (p : Profile) : Option ProfileDefect :=
  if isBlankString p.symbol then some .blankSymbol
  else if isBlankString p.defaultLiteral then some .blankDefaultLiteral
  else if isBlankString p.range then some .blankRange
  else if p.byteSize = 0 then some .zeroByteSize
  else none

/-- Accepts a profile for itself. -/
def check (p : Profile) : Except RegistryError Unit := do
  checkTag .classTag p.classTag
  checkTag .fileTag p.fileTag
  match p.defect? with
  | some defect => throw (.profile p.classTag defect)
  | none => pure ()

end Profile

/-- Profiles in the order of generation, and the conventions of the template. -/
structure Registry where
  conventions : Conventions
  profiles : List Profile
  /-- The positions of the profiles under their class tags. -/
  byTag : OrderedMap String Nat
deriving DecidableEq, Repr, Inhabited

namespace Registry

/-- Accepts class tags that differ from the canonical one, and file tags that differ from each other
and from those in `taken`. -/
def checkTags (c : Conventions) (taken : List Text) : List Profile → Except RegistryError Unit
  | [] => .ok ()
  | p :: ps =>
    if p.classTag = c.classTag then .error (.invalidTag .classTag p.classTag .canonical)
    else if taken.contains (foldCase p.fileTag) then .error (.duplicateTag .fileTag p.fileTag)
    else checkTags c (foldCase p.fileTag :: taken) ps

/-- Accepts profiles whose implementation includes the interface next to it. -/
def checkIncludeLabels (c : Conventions) (ps : List Profile) : Except RegistryError Unit :=
  match ps.find? fun p => p.includeLabel ≠ c.includeLabelFor p.fileTag with
  | some p => .error (.includeLabel p.classTag (c.includeLabelFor p.fileTag) p.includeLabel)
  | none => .ok ()

/-- The file tags that no profile may have: the canonical one, and the type parameter that the
generic header is named after. -/
def reservedTags (c : Conventions) : List Text := [foldCase c.genericParameter, foldCase c.fileTag]

/-- Files the positions of the profiles, which start at `position`, under their class tags. -/
def index (byTag : OrderedMap String Nat) (position : Nat) :
    List Profile → Except RegistryError (OrderedMap String Nat)
  | [] => .ok byTag
  | p :: ps =>
    match byTag.insert p.classTag position with
    | (some _, _) => .error (.duplicateTag .classTag p.classTag)
    | (none, byTag) => index byTag (position + 1) ps

/-- Accepts a registry whose values can stand where they are used and whose file names stay apart.
-/
def validate (r : Registry) : Except RegistryError Unit := do
  -- the checks of the profiles compare with the conventions
  r.conventions.check
  if r.profiles.isEmpty then throw .empty
  r.profiles.forM Profile.check
  checkTags r.conventions (reservedTags r.conventions) r.profiles
  checkIncludeLabels r.conventions r.profiles

/-- The registry of the given profiles, if they are accepted. -/
def new (c : Conventions) (ps : List Profile) : Except RegistryError Registry := do
  let r : Registry := ⟨c, ps, ← index ∅ 0 ps⟩
  r.validate
  pure r

/-- The profile at the position under the tag. -/
def lookup (r : Registry) (classTag : String) : Option Profile :=
  (r.byTag.get? classTag).bind fun i => r.profiles[i]?

end Registry

end VectorFamily
