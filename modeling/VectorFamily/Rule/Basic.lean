import VectorFamily.Artifact
import VectorFamily.Pattern.Scan
import VectorFamily.Pattern.Expansion

/-!
# Rewrite rules

A rule says when it runs, whether it must match, and what it does to the text it runs on. Rules are
data; `Rule.apply` is the only thing that interprets an edit.
-/

namespace VectorFamily

/-- The stages of rewriting, in the order in which they run. The last one belongs to the generic
header. -/
inductive Stage where
  | tokenSubstitution
  | metadataSubstitution
  | booleanPruning
  | narrowingCasts
  | streamOutput
  | exportStripping
  | generalization
deriving DecidableEq, Repr, Inhabited

namespace Stage

def all : List Stage :=
  [tokenSubstitution, metadataSubstitution, booleanPruning, narrowingCasts, streamOutput,
    exportStripping, generalization]

def name : Stage → String
  | tokenSubstitution => "token substitution"
  | metadataSubstitution => "metadata substitution"
  | booleanPruning => "boolean pruning"
  | narrowingCasts => "narrowing casts"
  | streamOutput => "stream output"
  | exportStripping => "export stripping"
  | generalization => "generalization"

def ofName? (s : String) : Option Stage := all.find? (·.name == s)

end Stage

/-- For which profiles and settings a rule runs. -/
inductive Gate where
  | always
  | categories (cs : List Category)
  | exportDisabled
deriving DecidableEq, Repr

/-- On which artifacts a rule runs. -/
inductive Scope where
  | both
  | only (kind : ArtifactKind)
deriving DecidableEq, Repr

def Scope.includes : Scope → ArtifactKind → Bool
  | both, _ => true
  | only kind, kind' => kind == kind'

/-- Where a rule has to match if it runs. -/
inductive Expectation where
  | nowhere
  | matchIn (scope : Scope)
deriving DecidableEq, Repr

def Expectation.requiredFor : Expectation → ArtifactKind → Bool
  | nowhere, _ => false
  | matchIn scope, kind => scope.includes kind

/-- What becomes of a match. -/
inductive Action where
  /-- The given text takes its place. -/
  | replace (text : Text)
  /-- A template, filled in from the match, takes its place. -/
  | expand (template : Text)
  /-- It stays, between two texts. -/
  | wrap (before after : Text)
  /-- Nothing is left of it. -/
  | delete
deriving DecidableEq, Repr

/-- What takes the place of a match. -/
def Action.render : Action → Hit → Text
  | replace text, _ => text
  | expand template, h => h.expand template
  | wrap before after, h => before ++ h.text ++ after
  | delete, _ => []

/-- What a rule does to a text. -/
inductive Edit where
  /-- Treats every match of each pattern, one pattern after another. -/
  | substitute (patterns : List Pattern) (action : Action)
  /-- Inserts text as lines of its own behind the line on which the first match of the anchor
  ends. -/
  | insertAfterLine (anchor : Pattern) (text : Text)
  /-- Adds a line at the end. -/
  | appendLine (line : Text)
deriving DecidableEq, Repr

namespace Edit

/-- Treats every match of each pattern and counts the matches. -/
def substituteAll (action : Action) (patterns : List Pattern) (t : Text) : Text × Nat :=
  patterns.foldl (fun s p =>
    let out := p.replaceAll action.render s.1
    (out.1, s.2 + out.2)) (t, 0)

/-- Inserts lines behind the line on which the first match ends; without a match nothing happens. A
last line without a line feed gets one, and then the inserted text has none. -/
def insertLines (anchor : Pattern) (text t : Text) : Text × Nat :=
  match anchor.find? t with
  | none => (t, 0)
  | some (before, h, after) =>
    let lineRest := after.takeWhile (· != '\n')
    match after.drop lineRest.length with
    -- the match ends on the last line, which has no line feed
    | [] => (t ++ '\n' :: text, 1)
    | newline :: later =>
      (before ++ h.text ++ lineRest ++ newline :: text ++ '\n' :: later, 1)

/-- Adds a line at the end, behind a line feed. -/
def addLine (line t : Text) : Text :=
  if t.getLast?.all (· == '\n') then t ++ line ++ ['\n'] else t ++ '\n' :: line ++ ['\n']

def apply : Edit → Text → Text × Nat
  | substitute patterns action, t => substituteAll action patterns t
  | insertAfterLine anchor text, t => insertLines anchor text t
  | appendLine line, t => (addLine line t, 1)

end Edit

/-- What a rule is asked about: a category, an artifact, and whether the export token stays. -/
structure RuleContext where
  category : Category
  kind : ArtifactKind
  keepExport : Bool
deriving DecidableEq, Repr

structure Rule where
  name : String
  stage : Stage
  gate : Gate := .always
  scope : Scope := .both
  expect : Expectation := .nowhere
  edit : Edit
deriving DecidableEq, Repr

namespace Rule

def applies (r : Rule) (ctx : RuleContext) : Bool :=
  r.scope.includes ctx.kind &&
    match r.gate with
    | .always => true
    | .categories cs => cs.contains ctx.category
    | .exportDisabled => !ctx.keepExport

def apply (r : Rule) (t : Text) : Text × Nat := r.edit.apply t

/-- One rule of a run: whether it runs in its context, its matches, and the text after it. -/
structure Trace where
  rule : Rule
  applies : Bool
  hits : Nat
  before : Text
  after : Text

/-- Applies rules one after another and shows what each of them did. -/
def trace (ctx : RuleContext) : List Rule → Text → List Trace
  | [], _ => []
  | r :: rs, t =>
    let out := r.apply t
    ⟨r, r.applies ctx, out.2, t, out.1⟩ :: trace ctx rs out.1

end Rule

end VectorFamily
