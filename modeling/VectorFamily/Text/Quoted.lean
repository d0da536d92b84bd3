import VectorFamily.Text.Basic

/-!
# Quoted texts

Paths are shown in double quotes. Inside, the quote and the backslash carry a backslash, a tab, a
line break and the zero character have letters, and every other character without a visible form
is spelled by its code.
-/

namespace VectorFamily.Text

/-- The lower-case hexadecimal digits of a code point. -/
def hexCode (c : Char) : Text := Nat.toDigits 16 c.toNat

/-- How a character stands in a quoted text. -/
def quoteChar (c : Char) : Text :=
  match c with
  | '"' => ['\\', '"']
  | '\\' => ['\\', '\\']
  | '\t' => ['\\', 't']
  | '\n' => ['\\', 'n']
  | '\r' => ['\\', 'r']
  | '\x00' => ['\\', '0']
  | c => if Unicode.isVisible c then [c] else "\\u\x7b".toList ++ hexCode c ++ ['}']

/-- The text in double quotes. -/
def quoted (t : Text) : Text := '"' :: t.flatMap quoteChar ++ ['"']

end VectorFamily.Text

namespace VectorFamily

/-- The string in double quotes. -/
def quoted (s : String) : String := String.ofList (Text.quoted s.toList)

end VectorFamily
