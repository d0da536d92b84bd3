import VectorFamily.Placeholder
import VectorFamily.Rule.Check

/-!
# Specialization to one element type

The rules that make the artifacts of one element type out of the canonical ones, in the order in
which they run. Names are replaced before annotations, the label of the included file last of them,
because the helper for casts is put behind the line of that label. Statements without a meaning for
booleans go before casts are set around what is left.
-/

namespace VectorFamily

/-- A profile to be made from the template of the given conventions. -/
structure Specialization where
  conventions : Conventions
  profile : Profile
  /-- Whether the export token stays. -/
  keepExport : Bool := true
deriving DecidableEq, Repr

namespace Specialization

/-- The name of the macro that casts back to the element type. -/
def castHelper : String := "cast"

/-- Replaces a literal as a whole token. -/
def literal (placeholder replacement : String) : Edit :=
  .substitute [Pattern.token placeholder.toList] (.replace replacement.toList)

/-- One pattern for each field name. -/
def perField (pattern : Char → Pattern) : List Pattern := fieldAlphabet.map pattern

/-! ### Patterns of the canonical implementation -/

def stepOperators : List Text := ["++".toList, "--".toList]

/-- The operators that change their left side. -/
def compoundOperators : List Text := ["+=".toList, "-=".toList, "*=".toList, "/=".toList]

/-- The operators between a field and an operand. -/
def mixedOperators : List Text :=
  compoundOperators ++ ["+".toList, "-".toList, "*".toList, "/".toList]

/-- The scalar operand of the canonical functions. -/
def number : Text := "number".toList

def fieldOfV (f : Char) : Text := ['v', '.', f]

def fieldOfRight (f : Char) : Text := "right.".toList ++ [f]

/-- A step of a field as a statement. -/
def stepStatement (f : Char) : Pattern := [.choice stepOperators, .text [f, ';']]

/-- A field divided by an operand, with the comma behind it. -/
def division (f : Char) : Pattern :=
  [.boundary, .text [f, ' ', '/', ' '], .choice [number, fieldOfV f], .boundary, .optional [',']]

/-- A change of a field by an operand as a statement. -/
def compoundStatement (f : Char) : Pattern :=
  [.boundary, .text [f, ' '], .choice compoundOperators, .text [' '],
    .choice [fieldOfRight f, number], .text [';']]

/-- A field and an operand with an operator between them. -/
def mixedExpression (f : Char) : Pattern :=
  [.boundary, .text [f, ' '], .choice mixedOperators, .text [' '],
    .choice [fieldOfV f, fieldOfRight f, number], .boundary]

def includeDirective (label : String) : Pattern :=
  [.text "#include".toList, .run .blank 1, .text ('"' :: label.toList ++ ['"'])]

/-- A field of `v` that is written to a stream; the field is the group `field`. -/
def streamedField : Pattern :=
  [.text "<< ".toList, .named "field" (.choice (fieldAlphabet.map fieldOfV)), .boundary]

/-- The export token and one space behind it. -/
def exportPattern (c : Conventions) : Pattern :=
  Pattern.token c.exportToken.toList ++ [.optional [' ']]

/-! ### Gates -/

/-- The categories whose arithmetic is cast back. -/
def castGate : Gate := .categories (Category.all.filter (·.needsNarrowingCast))

/-- The categories whose fields are promoted before they are written. -/
def printableGate : Gate := .categories (Category.all.filter (·.needsPrintableStream))

/-! ### Rules -/

variable (s : Specialization)

/-- Replaces the element type, the class names and the default arguments. -/
def tokenRules : List Rule :=
  [{ name := "token.symbol", stage := .tokenSubstitution
     expect := .matchIn .both
     edit := literal s.conventions.symbol s.profile.symbol },
   { name := "token.class-name", stage := .tokenSubstitution
     expect := .matchIn .both
     -- the tag is no template: a dollar sign in it refers to nothing
     edit := .substitute [s.conventions.classNamePattern]
      (.expand (s.conventions.classNameTemplate (Expansion.protect s.profile.classTag.toList))) },
   { name := "token.default-literal", stage := .tokenSubstitution
     expect := .matchIn (.only .interface)
     edit := literal s.conventions.defaultLiteral s.profile.defaultLiteral }]

def metadataRules : List Rule :=
  [{ name := "metadata.byte-size", stage := .metadataSubstitution
     expect := .matchIn .both
     edit := literal s.conventions.byteSizeNote s.profile.byteSizeNote },
   { name := "metadata.range", stage := .metadataSubstitution
     expect := .matchIn .both
     edit := literal s.conventions.rangeNote s.profile.rangeNote },
   { name := "metadata.include-label", stage := .metadataSubstitution
     scope := .only .implementation
     expect := .matchIn (.only .implementation)
     edit := literal s.conventions.includeLabel s.profile.includeLabel }]

/-- Deletes the matches of the patterns from implementations for booleans. -/
def pruning (name : String) (patterns : List Pattern) : Rule where
  name := name
  stage := .booleanPruning
  gate := .categories [.boolean]
  scope := .only .implementation
  expect := .matchIn (.only .implementation)
  edit := .substitute patterns .delete

/-- Deletes arithmetic that means nothing for booleans. -/
def booleanRules : List Rule :=
  [pruning "bool.step" (perField stepStatement),
   pruning "bool.divide" (perField division),
   pruning "bool.compound" (perField compoundStatement)]

/-- Casts arithmetic back to the element type. -/
def castRules : List Rule :=
  [{ name := "cast.wrap", stage := .narrowingCasts
     gate := castGate
     scope := .only .implementation
     expect := .matchIn (.only .implementation)
     edit := .substitute (perField mixedExpression) (.wrap (castHelper.toList ++ ['(']) [')']) },
   { name := "cast.helper", stage := .narrowingCasts
     gate := castGate
     scope := .only .implementation
     expect := .matchIn (.only .implementation)
     edit := .insertAfterLine (includeDirective s.profile.includeLabel)
      ("\n#define " ++ castHelper ++ "(x) static_cast<" ++ s.profile.symbol ++ ">(x)").toList },
   { name := "cast.scope", stage := .narrowingCasts
     gate := castGate
     scope := .only .implementation
     edit := .appendLine ("#undef " ++ castHelper).toList }]

/-- Promotes fields that are written to a stream, and widens the stream. -/
def streamRules : List Rule :=
  [{ name := "stream.printable", stage := .streamOutput
     gate := printableGate
     expect := .matchIn (.only .interface)
     edit := .substitute [streamedField] (.expand "<< (int)$field".toList) },
   { name := "stream.wide", stage := .streamOutput
     gate := .categories [.wideCharacter]
     expect := .matchIn (.only .interface)
     edit := literal "std::ostream&" "std::wostream&" }]

def exportRules : List Rule :=
  [{ name := "export.strip", stage := .exportStripping
     gate := .exportDisabled
     edit := .substitute [exportPattern s.conventions] .delete }]

/-- The rules in the order in which they run. -/
def rules : List Rule :=
  s.tokenRules ++ s.metadataRules ++ booleanRules ++ s.castRules ++ streamRules ++ s.exportRules

/-- The literals of the template, each with what takes its place. -/
def replacements : List (String × String) :=
  let c := s.conventions
  let p := s.profile
  [(c.symbol, p.symbol), (c.defaultLiteral, p.defaultLiteral), (c.byteSizeNote, p.byteSizeNote),
    (c.rangeNote, p.rangeNote), (c.includeLabel, p.includeLabel)]

/-- What must be gone when all rules have run: canonical class names, and every literal that differs
from what takes its place. -/
def placeholders : List Pattern :=
  s.conventions.classNamePattern ::
    (s.replacements.filter fun r => r.1 ≠ r.2).map fun r => Pattern.token r.1.toList

def context (kind : ArtifactKind) : RuleContext := ⟨s.profile.category, kind, s.keepExport⟩

def rulesFor (kind : ArtifactKind) : List Rule := s.rules.filter (·.applies (s.context kind))

/-- Makes the artifact of the profile out of the canonical one. -/
def run (kind : ArtifactKind) (source : Text) : Except Failure Text := do
  let t ← Rule.applyAll s.profile.classTag kind (s.rulesFor kind) source
  checkPlaceholders s.profile.classTag kind t s.placeholders
  pure t

end Specialization

end VectorFamily
