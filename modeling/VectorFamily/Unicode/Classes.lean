import VectorFamily.Unicode.Alphabetic
import VectorFamily.Unicode.Mark
import VectorFamily.Unicode.Number
import VectorFamily.Unicode.Recent
import VectorFamily.Unicode.Hidden

/-!
# The character classes that the generator consults

Two notions of a word character are in use, and they differ. `isAlphanumeric` decides at which ends
of a literal a word boundary is asked for; `isWord` decides where a boundary is. `²` is alphanumeric
and not a word character, a combining accent the other way round. Boundaries also go by version 16.0
of the standard and everything else by version 17.0. The two agree on ASCII, but for the underscore.
-/

namespace VectorFamily.Unicode

/-- A letter, digit or underscore of ASCII. -/
def isAsciiWord (c : Char) : Bool := c.isAlphanum || c == '_'

/-- A character that a word boundary counts as part of a word: alphabetic, a mark, a decimal digit,
a connector, or one of the two joiners; and not one of the newest characters. -/
def isWord (c : Char) : Bool :=
  if c.toNat < 0x80 then isAsciiWord c
  else !recent.has c &&
    (alphabetic.has c || mark.has c || decimalNumber.has c || connector.has c ||
      c == '\u200c' || c == '\u200d')

/-- Alphabetic or numeric, whatever kind of number. -/
def isAlphanumeric (c : Char) : Bool :=
  if c.toNat < 0x80 then c.isAlphanum
  else alphabetic.has c || decimalNumber.has c || otherNumber.has c

/-- White space: the blank characters of ASCII, next line, and the separators of Unicode. -/
def isBlank (c : Char) : Bool :=
  let n := c.toNat
  (0x09 ≤ n && n ≤ 0x0d) || n == 0x20 || n == 0x85 || n == 0xa0 || n == 0x1680 ||
    (0x2000 ≤ n && n ≤ 0x200a) || n == 0x2028 || n == 0x2029 || n == 0x202f || n == 0x205f ||
    n == 0x3000

/-- Quoted text may show the character as it is. -/
def isVisible (c : Char) : Bool :=
  if c.toNat < 0x80 then 0x20 ≤ c.toNat && c.toNat < 0x7f else !hidden.has c

theorem isWord_of_ascii {c : Char} (h : c.toNat < 0x80) : isWord c = isAsciiWord c := by
  simp [isWord, h]

theorem isAlphanumeric_of_ascii {c : Char} (h : c.toNat < 0x80) :
    isAlphanumeric c = c.isAlphanum := by
  simp [isAlphanumeric, h]

end VectorFamily.Unicode
