import VectorFamily.FileSystem.Basic

/-!
# Why a registry is refused
-/

namespace VectorFamily

/-- Why a document is not a registry, whatever the values in it. -/
inductive DocumentError where
  /-- The text is no document at all. -/
  | notDocument
  | unknownKey (key : String)
  | missingKey (key : String)
  | wrongType (key : String)
  | outOfRange (key : String)
  | unknownCategory (name : String)
deriving DecidableEq, Repr

namespace DocumentError

/-- What is wrong with the document. -/
def message : DocumentError → String
  | notDocument => "the text is not a TOML document"
  | unknownKey key => "unknown key '" ++ key ++ "'"
  | missingKey key => "missing key '" ++ key ++ "'"
  | wrongType key => "the value of '" ++ key ++ "' has the wrong type"
  | outOfRange key => "the number '" ++ key ++ "' is out of range"
  | unknownCategory name => "unknown category '" ++ name ++ "'"

end DocumentError

/-- What a tag is the tag of. -/
inductive TagRole where
  | classTag
  | fileTag
  | canonicalClassTag
  | canonicalFileTag
deriving DecidableEq, Repr

/-- The role as messages name it. -/
def TagRole.name : TagRole → String
  | classTag => "class tag"
  | fileTag => "file tag"
  | canonicalClassTag => "canonical class tag"
  | canonicalFileTag => "canonical file tag"

/-- Why a tag cannot stand in a name. -/
inductive TagDefect where
  | empty
  | leadingDigit
  | foreignCharacter
  | canonical
deriving DecidableEq, Repr

/-- The defect as messages state it. -/
def TagDefect.message : TagDefect → String
  | empty => "cannot be empty"
  | leadingDigit => "cannot start with a digit"
  | foreignCharacter => "can only contain ASCII letters, digits and underscores"
  | canonical => "collides with the canonical template tag"

/-- What is wrong with a value of a profile. -/
inductive ProfileDefect where
  | blankSymbol
  | blankDefaultLiteral
  | blankRange
  | zeroByteSize
deriving DecidableEq, Repr

/-- The defect as messages state it. -/
def ProfileDefect.message : ProfileDefect → String
  | blankSymbol => "symbol cannot be empty"
  | blankDefaultLiteral => "default literal cannot be empty"
  | blankRange => "range cannot be empty"
  | zeroByteSize => "byte size must be non-zero"

/-- Why a registry is refused. -/
inductive RegistryError where
  | unreadable (cause : FileSystem.Cause)
  | malformed (detail : DocumentError)
  | empty
  | duplicateTag (role : TagRole) (tag : String)
  | invalidTag (role : TagRole) (tag : String) (defect : TagDefect)
  | includeLabel (tag expected found : String)
  | blankConvention (field : String)
  | equalExtensions
  | profile (tag : String) (defect : ProfileDefect)
deriving DecidableEq, Repr

/-- The error as it is shown. -/
def RegistryError.message : RegistryError → String
  | unreadable cause => "I/O error: " ++ cause.message
  | malformed detail => "Failed to parse profile registry: " ++ detail.message
  | empty => "Profile registry is empty"
  | duplicateTag role tag => "Duplicate " ++ role.name ++ " '" ++ tag ++ "'"
  | invalidTag role tag defect => "Invalid " ++ role.name ++ " '" ++ tag ++ "': " ++ defect.message
  | includeLabel tag expected found =>
    "Profile '" ++ tag ++ "' includes '" ++ found ++ "' but its interface file is '" ++ expected ++
      "'"
  | blankConvention field => "Validation error: canonical." ++ field ++ " cannot be empty"
  | equalExtensions => "Validation error: interface and implementation extensions must differ"
  | profile tag defect => "Validation error: profile '" ++ tag ++ "': " ++ defect.message

end VectorFamily
