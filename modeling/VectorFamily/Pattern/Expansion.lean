import VectorFamily.Pattern.Basic

/-!
# Templates of replacements

A template refers to what the named parts of a match took. `$$` stands for a dollar sign, `$name`
for a group whose name goes on as long as letters, digits and underscores follow, and `$` with a
name in braces for a group of any name. A number names a group by its place, zero being the whole
match. A group that the match does not have is empty, and a dollar sign that starts none of these
stands for itself.
-/

namespace VectorFamily

/-- A piece of a template: a character as it is, or a reference to a group. -/
inductive TemplatePiece where
  | literal (c : Char)
  | group (name : Text)
deriving DecidableEq, Repr

namespace Expansion

/-- Which part of a template a reader is in; names are held in reverse. -/
inductive State where
  | plain
  | dollar
  | name (read : Text)
  | braced (read : Text)

/-- A character that may stand in a name without braces. -/
def isNameChar (c : Char) : Bool := c.isAlphanum || c == '_'

/-- Reads a template from a state. A brace opens a name only if one closes it later. -/
def parseFrom : State → Text → List TemplatePiece
  | .plain, [] => []
  | .dollar, [] => [.literal '$']
  | .name read, [] => [.group read.reverse]
  | .braced read, [] => [.group read.reverse]
  | .plain, c :: t =>
    if c == '$' then parseFrom .dollar t else .literal c :: parseFrom .plain t
  | .dollar, c :: t =>
    if c == '$' then .literal '$' :: parseFrom .plain t
    else if c == '\x7b' && t.contains '\x7d' then parseFrom (.braced []) t
    else if isNameChar c then parseFrom (.name [c]) t
    else .literal '$' :: .literal c :: parseFrom .plain t
  | .name read, c :: t =>
    if isNameChar c then parseFrom (.name (c :: read)) t
    else
      .group read.reverse ::
        if c == '$' then parseFrom .dollar t else .literal c :: parseFrom .plain t
  | .braced read, c :: t =>
    if c == '\x7d' then .group read.reverse :: parseFrom .plain t
    else parseFrom (.braced (c :: read)) t

def parse (template : Text) : List TemplatePiece := parseFrom .plain template

/-- The template that stands for the text itself. -/
def protect (t : Text) : Text := t.flatMap fun c => if c == '$' then ['$', '$'] else [c]

/-- The number that a group name is: decimal digits, a plus sign before them being allowed. -/
def number? (name : Text) : Option Nat :=
  let digits := if name.head? = some '+' then name.tail else name
  if digits.isEmpty || !digits.all Char.isDigit then none
  else some (digits.foldl (fun n d => 10 * n + (d.toNat - '0'.toNat)) 0)

end Expansion

namespace Hit

/-- What a group took, the empty text if there is no such group. -/
def group (h : Hit) (name : Text) : Text :=
  match Expansion.number? name with
  | some 0 => h.text
  | some (n + 1) => (h.groups[n]?.map (·.2)).getD []
  | none => (h.groups.lookup (String.ofList name)).getD []

/-- What a piece of a template stands for. -/
def expandPiece (h : Hit) : TemplatePiece → Text
  | .literal c => [c]
  | .group name => h.group name

/-- The template with every reference replaced by what the group took. -/
def expand (h : Hit) (template : Text) : Text := (Expansion.parse template).flatMap h.expandPiece

end Hit

end VectorFamily
