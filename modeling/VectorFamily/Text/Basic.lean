import VectorFamily.Unicode.Classes

/-!
# Texts

The generator works on texts as lists of characters, and counts positions in UTF-8 bytes wherever
a position is shown.
-/

namespace VectorFamily

/-- A source text, or a piece of one. -/
abbrev Text := List Char

namespace Text

/-- Number of bytes of the UTF-8 form. -/
def byteSize (t : Text) : Nat :=
  t.foldr (fun c n => c.utf8Size + n) 0

@[simp] theorem byteSize_nil : byteSize [] = 0 := rfl

@[simp] theorem byteSize_cons (c : Char) (t : Text) : byteSize (c :: t) = c.utf8Size + byteSize t :=
  rfl

@[simp] theorem byteSize_append (s t : Text) : byteSize (s ++ t) = byteSize s + byteSize t := by
  induction s with
  | nil => simp
  | cons c s ih => simp [ih, Nat.add_assoc]

def trimStart (t : Text) : Text := t.dropWhile Unicode.isBlank

def trimEnd (t : Text) : Text := (t.reverse.dropWhile Unicode.isBlank).reverse

def trim (t : Text) : Text := trimEnd (trimStart t)

/-- What stands before `suffix` at the end of `t`, if `t` ends with it. -/
def dropSuffix? (suffix t : Text) : Option Text :=
  (suffix.reverse.isPrefixOf? t.reverse).map List.reverse

def isAllBlank (t : Text) : Bool := t.all Unicode.isBlank

end Text

end VectorFamily
