import VectorFamily.Toml.Quoted
import VectorFamily.Toml.Scalar

/-!
# From text to statements

A document is a sequence of statements: keys with values, and headers. Reading stops at the first
thing that is none of these. Every reader gives what it read and the text behind it; where readers
call each other, `fuel` bounds the calls, and the length of the text is always enough.
-/

namespace VectorFamily.Toml

/-- A line, or several lines that belong together, of a document. -/
inductive Statement where
  | keyValue (path : List String) (value : Value)
  | header (path : List String)
  | arrayHeader (path : List String)
deriving Repr

/-- Values may be nested, and keys dotted, less often than this. -/
def depthLimit : Nat := 80

def skipSpaces (t : Text) : Text := t.dropWhile isSpace

/-- Drops a comment, up to the end of its line. -/
def skipComment : Text → Text
  | '#' :: t => t.dropWhile isTextChar
  | t => t

/-- What follows the end of a line, where blanks and a comment may stand before it. -/
def lineEnd? (t : Text) : Option Text :=
  match skipComment (skipSpaces t) with
  | [] => some []
  | t => newline? t

/-- Drops blanks, line ends and comments. -/
def skipTrivia : Nat → Text → Text
  | 0, t => t
  | fuel + 1, t =>
    match skipLines t with
    | '#' :: r => skipTrivia fuel (r.dropWhile isTextChar)
    | t => t

/-! ### Keys -/

/-- A character of a key without quotes. -/
def isKeyChar (c : Char) : Bool := c.isAlphanum || c == '_' || c == '-'

/-- One name of a key. -/
def simpleKey? (t : Text) : Option (String × Text) :=
  let read : Option (Text × Text) :=
    match t with
    | '"' :: r => basicString r
    | '\'' :: r => literalString r
    | t =>
      let word := t.takeWhile isKeyChar
      if word.isEmpty then none else some (word, t.drop word.length)
  read.map fun (name, rest) => (String.ofList name, rest)

/-- The names of a key with dots between them, and blanks around each. -/
def dottedKey : Nat → Text → Option (List String × Text)
  | 0, _ => none
  | fuel + 1, t => do
    let (name, t) ← simpleKey? (skipSpaces t)
    match skipSpaces t with
    | '.' :: r =>
      let (names, t) ← dottedKey fuel r
      pure (name :: names, t)
    | t => pure ([name], t)

def key? (t : Text) : Option (List String × Text) := do
  let (path, t) ← dottedKey (t.length + 1) t
  if path.length < depthLimit then pure (path, t) else none

/-! ### Values -/

mutual

/-- A value that may hold values down to the given depth. -/
def value : Nat → Nat → Text → Option (Value × Text)
  | 0, _, _ => none
  | fuel + 1, depth, t =>
    match t with
    | '[' :: r => if depth ≤ 1 then none else elements fuel (depth - 1) [] r
    | '\x7b' :: r =>
      if depth ≤ 1 then none
      else
        match skipSpaces r with
        | '\x7d' :: r => some (.table .inline [], r)
        | r => pairs fuel (depth - 1) ⟨.inline, []⟩ r
    | t =>
      match string? t with
      | some (s, r) => some (.string (String.ofList s), r)
      | none => scalar? t

/-- The elements of an array, up to the closing bracket. -/
def elements : Nat → Nat → List Value → Text → Option (Value × Text)
  | 0, _, _, _ => none
  | fuel + 1, depth, read, t =>
    match skipTrivia t.length t with
    | ']' :: r => some (.array false read.reverse, r)
    | t => do
      let (v, t) ← value fuel depth t
      match skipTrivia t.length t with
      | ',' :: r => elements fuel depth (v :: read) r
      | ']' :: r => some (.array false (v :: read).reverse, r)
      | _ => none

/-- The entries of a table in braces, up to the closing brace. -/
def pairs : Nat → Nat → Table → Text → Option (Value × Text)
  | 0, _, _, _ => none
  | fuel + 1, depth, table, t => do
    let (path, t) ← key? t
    let (v, t) ← value fuel depth (skipSpaces (← expect '=' t))
    let table ← table.define path v
    match skipSpaces t with
    | ',' :: r => pairs fuel depth table r
    | '\x7d' :: r => some (table.value, r)
    | _ => none

end

/-! ### Statements -/

def statements : Nat → Text → Option (List Statement)
  | 0, _ => none
  | fuel + 1, t =>
    match skipSpaces t with
    | [] => some []
    | '[' :: '[' :: r => do
      let (path, r) ← key? r
      let rest ← lineEnd? (← expect ']' (← expect ']' r))
      return .arrayHeader path :: (← statements fuel rest)
    | '[' :: r => do
      let (path, r) ← key? r
      let rest ← lineEnd? (← expect ']' r)
      return .header path :: (← statements fuel rest)
    | c :: r =>
      if c = '#' ∨ c = '\n' ∨ c = '\r' then do statements fuel (← lineEnd? (c :: r))
      else do
        let (path, r) ← key? (c :: r)
        let (v, r) ← value (r.length + 1) depthLimit (skipSpaces (← expect '=' r))
        let rest ← lineEnd? r
        return .keyValue path v :: (← statements fuel rest)

/-- The statements of a whole document; a byte order mark may stand before them. -/
def statements? (t : Text) : Option (List Statement) :=
  let t := if t.head? = some '\ufeff' then t.tail else t
  statements (t.length + 1) t

end VectorFamily.Toml
