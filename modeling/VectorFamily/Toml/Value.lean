/-!
# Documents as trees of values

A table remembers how it came to be, because that decides whether a later header or key may add to
it: one written in braces is closed, one with a header of its own may get no second one, and one
that exists only because a longer path went through it may still be defined.
-/

namespace VectorFamily.Toml

/-- How a table came to be. -/
inductive Origin where
  /-- Written in braces. -/
  | inline
  /-- Defined by a header, or the document itself. -/
  | header
  /-- On the way to another table's header. -/
  | implied
  /-- On the way to a dotted key. -/
  | dotted
deriving DecidableEq, Repr

/-- A value of a document. Numbers that are no integers, and points in time, are kept as written. -/
inductive Value where
  | string (s : String)
  | integer (n : Int)
  | float (written : List Char)
  | boolean (b : Bool)
  | time (written : List Char)
  /-- `tables` says that the elements are tables under headers in double brackets, to which more may
  be added. -/
  | array (tables : Bool) (elements : List Value)
  | table (origin : Origin) (entries : List (String × Value))
deriving Repr

/-- The entries of a table in the order of their definition, with the table's origin. -/
structure Table where
  origin : Origin
  entries : List (String × Value) := []
deriving Repr

namespace Table

def value (t : Table) : Value := .table t.origin t.entries

def find? (t : Table) (key : String) : Option Value := t.entries.lookup key

def add (t : Table) (key : String) (v : Value) : Table :=
  { t with entries := t.entries ++ [(key, v)] }

/-- The table with another value for a key that it has. -/
def replace (t : Table) (key : String) (v : Value) : Table :=
  { t with entries := t.entries.map fun e => if e.1 = key then (key, v) else e }

/-- Changes the table that a path leads to. Missing tables are made, as parts of a dotted key or of
a header. A path goes through the last of several tables of one name; it does not go through a table
in braces, and a dotted key does not go through one with a header of its own. -/
def modifyAt (dotted : Bool) (change : Table → Option Table) : List String → Table → Option Table
  | [], t => change t
  | key :: path, t =>
    match t.find? key with
    | none => do
      let inner ← modifyAt dotted change path ⟨if dotted then .dotted else .implied, []⟩
      pure (t.add key inner.value)
    | some (.table origin entries) =>
      if origin = .inline ∨ (dotted ∧ origin = .header) then none
      else do
        let inner ← modifyAt dotted change path ⟨origin, entries⟩
        pure (t.replace key inner.value)
    | some (.array true elements) =>
      match elements.getLast? with
      | some (.table origin entries) => do
        let inner ← modifyAt dotted change path ⟨origin, entries⟩
        pure (t.replace key (.array true (elements.dropLast ++ [inner.value])))
      | _ => none
    | some _ => none

/-- Adds a key with its value. A dotted key adds only to tables that dotted keys have made, and a
plain one only to others; no key is defined twice. -/
def define (t : Table) (path : List String) (v : Value) : Option Table :=
  match path.getLast? with
  | none => none
  | some key =>
    let way := path.dropLast
    modifyAt true (fun inner =>
      -- a dotted key in a table that none has made, or a plain key in one that one has made
      if (inner.origin = .dotted) = (way = []) then none
      else if (inner.find? key).isSome then none
      else some (inner.add key v)) way t

/-- Adds the table under a header, to which `body` gives its entries. -/
def defineTable (t : Table) (path : List String) (body : Table → Option Table) : Option Table :=
  match path.getLast? with
  | none => none
  | some key =>
    modifyAt false (fun parent =>
      match parent.find? key with
      | none => (body ⟨.header, []⟩).map fun inner => parent.add key inner.value
      | some (.table .implied entries) =>
        (body ⟨.header, entries⟩).map fun inner => parent.replace key inner.value
      | some _ => none) path.dropLast t

/-- Adds one more table under a header in double brackets. -/
def appendTable (t : Table) (path : List String) (body : Table → Option Table) : Option Table :=
  match path.getLast? with
  | none => none
  | some key =>
    modifyAt false (fun parent =>
      match parent.find? key with
      | none => (body ⟨.header, []⟩).map fun inner => parent.add key (.array true [inner.value])
      | some (.array true elements) =>
        (body ⟨.header, []⟩).map fun inner =>
          parent.replace key (.array true (elements ++ [inner.value]))
      | some _ => none) path.dropLast t

end Table

end VectorFamily.Toml
