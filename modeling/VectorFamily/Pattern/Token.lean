import VectorFamily.Pattern.Scan

/-!
# Whole tokens

A literal is looked for as a whole token: at each end where it could run on into a longer word, a
word boundary is asked for. The ends are judged by `Unicode.isAlphanumeric`, the boundaries by
`Unicode.isWord`.
-/

namespace VectorFamily.Pattern

/-- A character at which a token could run on into a word. -/
def isEdge (c : Char) : Bool := Unicode.isAlphanumeric c || c == '_'

/-- A word boundary, if the end of the literal at which `c` stands asks for one. -/
def edge (c : Option Char) : Pattern := if c.any isEdge then [.boundary] else []

/-- The literal as a whole token. -/
def token (literal : Text) : Pattern :=
  edge literal.head? ++ [.text literal] ++ edge literal.getLast?

/-! ### Notation -/

/-- The characters that have a meaning of their own in a regular expression. -/
def isMeta (c : Char) : Bool := "\\.+*?()|[]\x7b\x7d^$#&-~".toList.contains c

/-- The literal with a backslash before each character that has a meaning of its own. -/
def escape (literal : Text) : Text :=
  literal.flatMap fun c => if isMeta c then ['\\', c] else [c]

/-- The notation of a boundary at the end of a literal at which `c` stands. -/
def edgeNotation (c : Option Char) : Text := if c.any isEdge then ['\\', 'b'] else []

/-- `token literal` written as a regular expression. -/
def tokenNotation (literal : Text) : Text :=
  edgeNotation literal.head? ++ escape literal ++ edgeNotation literal.getLast?

end VectorFamily.Pattern
