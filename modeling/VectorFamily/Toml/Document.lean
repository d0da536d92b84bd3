import VectorFamily.Toml.Grammar

/-!
# From statements to a document

A header starts a section, which goes on to the next header. The keys before the first header
belong to the document itself.
-/

namespace VectorFamily.Toml

/-- Keys with their values. -/
abbrev Assignments := List (List String × Value)

/-- What a header opens: a table of its own, or one more table of an array. -/
inductive Section where
  | table (path : List String) (body : Assignments)
  | element (path : List String) (body : Assignments)
deriving Repr

/-- Puts a statement in front of a document that is cut into its own keys and its sections. -/
def consStatement (s : Statement) (rest : Assignments × List Section) :
    Assignments × List Section :=
  match s with
  | .keyValue path v => ((path, v) :: rest.1, rest.2)
  | .header path => ([], .table path rest.1 :: rest.2)
  | .arrayHeader path => ([], .element path rest.1 :: rest.2)

def Table.assign (body : Assignments) (t : Table) : Option Table :=
  body.foldlM (fun t (path, v) => t.define path v) t

/-- Adds a section to a document. -/
def Table.addSection (t : Table) : Section → Option Table
  | .table path body => t.defineTable path (Table.assign body)
  | .element path body => t.appendTable path (Table.assign body)

/-- The document that statements make, if none contradicts an earlier one. -/
def assemble (statements : List Statement) : Option Table := do
  let (own, sections) := statements.foldr consStatement ([], [])
  sections.foldlM Table.addSection (← Table.assign own ⟨.header, []⟩)

def parse? (text : String) : Option Table := (statements? text.toList).bind assemble

end VectorFamily.Toml
