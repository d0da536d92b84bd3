import VectorFamily.Text.Basic

/-!
# Strings

Strings stand in double quotes, with escapes, or in single quotes, without; three quotes let a
string go over several lines. Each reader starts behind the opening quotes and gives the contents
and what follows the closing quotes.
-/

namespace VectorFamily.Toml

/-- A character that strings and comments may hold: no control other than the tab. -/
def isTextChar (c : Char) : Bool := c == '\t' || (0x20 ≤ c.toNat && c.toNat != 0x7f)

def isSpace (c : Char) : Bool := c == ' ' || c == '\t'

def hexDigit? (c : Char) : Option Nat :=
  if c.isDigit then some (c.toNat - '0'.toNat)
  else if 'a' ≤ c ∧ c ≤ 'f' then some (c.toNat - 'a'.toNat + 10)
  else if 'A' ≤ c ∧ c ≤ 'F' then some (c.toNat - 'A'.toNat + 10)
  else none

/-- The character whose code is written with exactly `count` digits at the front. -/
def codePoint? (count : Nat) (t : Text) : Option Char :=
  if t.length < count then none
  else do
    let digits ← (t.take count).mapM hexDigit?
    let code := digits.foldl (fun n d => 16 * n + d) 0
    if code.isValidChar then some (Char.ofNat code) else none

/-- The character that an escape stands for, and the number of characters behind the backslash. -/
def escape? (t : Text) : Option (Char × Nat) :=
  match t with
  | 'b' :: _ => some ('\x08', 1)
  | 't' :: _ => some ('\t', 1)
  | 'n' :: _ => some ('\n', 1)
  | 'f' :: _ => some ('\x0c', 1)
  | 'r' :: _ => some ('\r', 1)
  | '"' :: _ => some ('"', 1)
  | '\\' :: _ => some ('\\', 1)
  | 'u' :: r => (codePoint? 4 r).map (·, 5)
  | 'U' :: r => (codePoint? 8 r).map (·, 9)
  | _ => none

/-- What follows a line end at the front. -/
def newline? : Text → Option Text
  | '\n' :: r => some r
  | '\r' :: '\n' :: r => some r
  | _ => none

/-- Drops spaces and line ends. -/
def skipLines : Text → Text
  | ' ' :: r => skipLines r
  | '\t' :: r => skipLines r
  | '\n' :: r => skipLines r
  | '\r' :: '\n' :: r => skipLines r
  | t => t

theorem length_skipLines_le (t : Text) : (skipLines t).length ≤ t.length := by
  fun_induction skipLines t <;> simp_all <;> omega

theorem length_lt_of_newline? {t r : Text} (h : newline? t = some r) : r.length < t.length := by
  unfold newline? at h
  split at h <;> cases h
  · exact Nat.lt_succ_self _
  · exact Nat.lt_succ_of_lt (Nat.lt_succ_self _)

/-- What follows an escaped line end: the next character that is not blank. -/
def continuation? (t : Text) : Option Text := (newline? (t.dropWhile isSpace)).map skipLines

theorem length_continuation?_lt {t r : Text} (h : continuation? t = some r) :
    r.length < t.length := by
  simp only [continuation?, Option.map_eq_some_iff] at h
  obtain ⟨s, hs, rfl⟩ := h
  have h₁ := length_lt_of_newline? hs
  have h₂ := length_skipLines_le s
  have h₃ := (List.dropWhile_sublist isSpace (l := t)).length_le
  omega

/-- Puts a character in front of what a reader has read. -/
def prepend (c : Char) (read : Text × Text) : Text × Text := (c :: read.1, read.2)

/-- A string in double quotes. -/
def basicString : Text → Option (Text × Text)
  | [] => none
  | c :: r =>
    if c = '"' then some ([], r)
    else if c = '\\' then
      match escape? r with
      | some (d, n) => (basicString (r.drop n)).map (prepend d)
      | none => none
    else if isTextChar c then (basicString r).map (prepend c)
    else none
termination_by t => t.length
decreasing_by all_goals simp only [List.length_cons, List.length_drop]; omega

/-- A string in single quotes. -/
def literalString : Text → Option (Text × Text)
  | [] => none
  | c :: r =>
    if c = '\'' then some ([], r)
    else if isTextChar c then (literalString r).map (prepend c)
    else none

/-- What three quotes close at the front, one or two more of them belonging to the string. -/
def closing? (quote : Char) (t : Text) : Option (Text × Text) :=
  let quotes := (t.takeWhile (· == quote)).length
  if quotes < 3 then none
  else
    -- the last three of at most five quotes close
    let inside := min (quotes - 3) 2
    some (List.replicate inside quote, t.drop (inside + 3))

/-- A string in three double quotes. -/
def multilineBasic (t : Text) : Option (Text × Text) :=
  match closing? '"' t with
  | some read => some read
  | none =>
    match t with
    | [] => none
    | c :: r =>
      match _h : newline? (c :: r) with
      | some s => (multilineBasic s).map (prepend '\n')
      | none =>
        if c = '\\' then
          match _h : continuation? r with
          | some s => multilineBasic s
          | none =>
            match escape? r with
            | some (d, n) => (multilineBasic (r.drop n)).map (prepend d)
            | none => none
        else if isTextChar c then (multilineBasic r).map (prepend c)
        else none
termination_by t.length
decreasing_by
  · exact length_lt_of_newline? _h
  · have := length_continuation?_lt _h; simp only [List.length_cons]; omega
  · simp only [List.length_cons, List.length_drop]; omega
  · simp

/-- A string in three single quotes. -/
def multilineLiteral (t : Text) : Option (Text × Text) :=
  match closing? '\'' t with
  | some read => some read
  | none =>
    match t with
    | [] => none
    | c :: r =>
      match _h : newline? (c :: r) with
      | some s => (multilineLiteral s).map (prepend '\n')
      | none => if isTextChar c then (multilineLiteral r).map (prepend c) else none
termination_by t.length
decreasing_by
  · exact length_lt_of_newline? _h
  · simp

/-- Drops a line end at the front. -/
def dropNewline (t : Text) : Text := (newline? t).getD t

/-- A string of any kind, from its opening quotes on. -/
def string? : Text → Option (Text × Text)
  | '"' :: '"' :: '"' :: r => multilineBasic (dropNewline r)
  | '\'' :: '\'' :: '\'' :: r => multilineLiteral (dropNewline r)
  | '"' :: r => basicString r
  | '\'' :: r => literalString r
  | _ => none

end VectorFamily.Toml
