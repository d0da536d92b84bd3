import VectorFamily.Registry.Basic
import VectorFamily.Toml.Document

/-!
# Registries as documents

A document gives conventions under `canonical`, where each may be left out, and profiles under
`profile`, where none of the values may. A record is written as a table, by names, or as an array,
by places. Names that mean nothing are refused in the document and in a profile; under `canonical`
they are passed over, and a point in time is read there as a record without known names.
-/

namespace VectorFamily

open Toml (Value Table)

namespace Document

/-- The value that a record has for a field, which is known by its name and by its place. A point in
time counts as a record that has none of the fields. -/
def field? (v : Value) (place : Nat) (name : String) : Except DocumentError (Option Value) :=
  match v with
  | .table _ entries => .ok (entries.lookup name)
  | .array _ elements => .ok elements[place]?
  | .time _ => .ok none
  | _ => .error (.wrongType name)

def string (name : String) : Value → Except DocumentError String
  | .string s => .ok s
  | _ => .error (.wrongType name)

/-- A number of at most 32 bits. -/
def size (name : String) : Value → Except DocumentError Nat
  | .integer n => if 0 ≤ n ∧ n < UInt32.size then .ok n.toNat else .error (.outOfRange name)
  | _ => .error (.wrongType name)

/-- There is nothing in the value, which can hold something. -/
def isEmptyContainer : Value → Bool
  | .array _ elements => elements.isEmpty
  | .table _ entries => entries.isEmpty
  | _ => false

/-- A category, by its name, or by its name as the only key of a table without further contents. -/
def category (name : String) : Value → Except DocumentError Category
  | .string s => (Category.ofName? s).elim (.error (.unknownCategory s)) .ok
  | .table _ [(s, inner)] =>
    if isEmptyContainer inner then (Category.ofName? s).elim (.error (.unknownCategory s)) .ok
    else .error (.wrongType name)
  | _ => .error (.wrongType name)

/-- Reads a field that must be there. -/
def required {α : Type} (v : Value) (place : Nat) (name : String)
    (read : String → Value → Except DocumentError α) : Except DocumentError α := do
  match ← field? v place name with
  | some inner => read name inner
  | none => throw (.missingKey name)

/-- Reads a field that may be left out. -/
def optional {α : Type} (v : Value) (place : Nat) (name : String)
    (read : String → Value → Except DocumentError α) (default : α) : Except DocumentError α := do
  match ← field? v place name with
  | some inner => read name inner
  | none => pure default

/-- Refuses keys other than the given ones. -/
def onlyKeys (keys : List String) : Value → Except DocumentError Unit
  | .table _ entries =>
    match entries.find? fun e => !keys.contains e.1 with
    | some (key, _) => .error (.unknownKey key)
    | none => .ok ()
  | _ => .ok ()

/-- Conventions; what the record leaves out is as in the canonical template. -/
def conventions (v : Value) : Except DocumentError Conventions := do
  let c : Conventions := {}
  pure {
    classPrefix := ← optional v 0 "class_prefix" string c.classPrefix
    symbol := ← optional v 1 "symbol" string c.symbol
    classTag := ← optional v 2 "short_tag" string c.classTag
    fileTag := ← optional v 3 "file_tag" string c.fileTag
    defaultLiteral := ← optional v 4 "default_literal" string c.defaultLiteral
    byteSize := ← optional v 5 "byte_size" size c.byteSize
    range := ← optional v 6 "range" string c.range
    exportToken := ← optional v 7 "export_token" string c.exportToken
    genericParameter := ← optional v 8 "generic_param" string c.genericParameter
    interfaceExtension := ← optional v 9 "interface_extension" string c.interfaceExtension
    implementationExtension := ←
      optional v 10 "implementation_extension" string c.implementationExtension
  }

def profileKeys : List String :=
  ["symbol", "short_tag", "file_tag", "default_literal", "byte_size", "range", "include_label",
    "category"]

def profile (v : Value) : Except DocumentError Profile := do
  onlyKeys profileKeys v
  pure {
    symbol := ← required v 0 "symbol" string
    classTag := ← required v 1 "short_tag" string
    fileTag := ← required v 2 "file_tag" string
    defaultLiteral := ← required v 3 "default_literal" string
    byteSize := ← required v 4 "byte_size" size
    range := ← required v 5 "range" string
    includeLabel := ← required v 6 "include_label" string
    category := ← required v 7 "category" category
  }

def profiles (name : String) : Value → Except DocumentError (List Profile)
  | .array _ elements => elements.mapM profile
  | _ => .error (.wrongType name)

/-- The conventions and profiles of a document. -/
def read (document : Table) : Except DocumentError (Conventions × List Profile) := do
  onlyKeys ["canonical", "profile"] document.value
  let c ← match document.find? "canonical" with
    | some v => conventions v
    | none => pure {}
  let ps ← match document.find? "profile" with
    | some v => profiles "profile" v
    | none => pure []
  pure (c, ps)

end Document

namespace Registry

def ofDocument (document : Table) : Except RegistryError Registry :=
  match Document.read document with
  | .ok (c, ps) => new c ps
  | .error detail => .error (.malformed detail)

/-- The registry that a text describes. -/
def parse (text : String) : Except RegistryError Registry :=
  match Toml.parse? text with
  | some document => ofDocument document
  | none => .error (.malformed .notDocument)

def load {m : Type → Type} [Monad m] [FileSystem m] (path : String) :
    ExceptT RegistryError m Registry := do
  match ← (FileSystem.readText path : ExceptT FileSystem.Cause m String).run with
  | .ok text => ExceptT.mk (pure (parse text))
  | .error cause => throw (.unreadable cause)

end Registry

end VectorFamily
