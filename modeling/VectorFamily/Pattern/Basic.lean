import VectorFamily.Text.Basic

/-!
# Patterns

A pattern is a sequence of parts, matched one after another from a position of a text. A part never
gives back what it took: among options the first that fits stands, and a run goes as far as it can.
The patterns of this library are written so that no other choice could succeed where this one
fails; no option is followed by something that it could have left over.
-/

namespace VectorFamily

/-- The classes of characters that a run may be made of. -/
inductive CharClass where
  | indent
  | blank
deriving DecidableEq, Repr

namespace CharClass

/-- Membership: spaces and tabs indent, all white space is blank. -/
def has : CharClass → Char → Bool
  | indent, c => c == ' ' || c == '\t'
  | blank, c => Unicode.isBlank c

end CharClass

/-- What a part of a pattern asks for. -/
inductive Piece where
  /-- A word character on one side of the position and none on the other. -/
  | boundary
  /-- The start of the text, or a line feed before the position. -/
  | lineStart
  /-- The end of the text, or a line feed behind the position. -/
  | lineEnd
  /-- The first of some texts that stands at the position. -/
  | oneOf (options : List Text)
  /-- As many characters of a class as follow, but not fewer than `least`. -/
  | run (cls : CharClass) (least : Nat)
deriving DecidableEq, Repr

namespace Piece

/-- The character is there and is a word character. -/
def isWordAt (c : Option Char) : Bool := c.any Unicode.isWord

/-- What the piece takes from the front of `rest`, where `before` is the character that precedes. -/
def take? (before : Option Char) (rest : Text) : Piece → Option Text
  | boundary => if isWordAt before != isWordAt rest.head? then some [] else none
  | lineStart => if before.all (· == '\n') then some [] else none
  | lineEnd => if rest.head?.all (· == '\n') then some [] else none
  | oneOf options => options.find? (·.isPrefixOf rest)
  | run cls least =>
    let taken := rest.takeWhile cls.has
    if least ≤ taken.length then some taken else none

theorem prefix_of_take? {before : Option Char} {rest taken : Text} {piece : Piece}
    (h : piece.take? before rest = some taken) : taken <+: rest := by
  cases piece with
  | boundary | lineStart | lineEnd =>
    simp only [take?, Option.ite_none_right_eq_some, Option.some.injEq] at h
    exact h.2 ▸ List.nil_prefix
  | oneOf options => simpa using List.find?_some h
  | run cls least =>
    simp only [take?, Option.ite_none_right_eq_some, Option.some.injEq] at h
    exact h.2 ▸ List.takeWhile_prefix _

end Piece

/-- A piece, with a name if what it takes is to be referred to. -/
structure Part where
  piece : Piece
  name : Option String := none
deriving DecidableEq, Repr

namespace Part

def text (t : Text) : Part := ⟨.oneOf [t], none⟩

/-- One of the given texts, the first that fits. -/
def choice (options : List Text) : Part := ⟨.oneOf options, none⟩

def optional (t : Text) : Part := ⟨.oneOf [t, []], none⟩

def boundary : Part := ⟨.boundary, none⟩

def lineStart : Part := ⟨.lineStart, none⟩

def lineEnd : Part := ⟨.lineEnd, none⟩

def run (cls : CharClass) (least : Nat) : Part := ⟨.run cls least, none⟩

def named (name : String) (p : Part) : Part := { p with name := some name }

end Part

/-- Parts to be matched one after another. -/
abbrev Pattern := List Part

/-- A match: the text matched, and what the named parts took, in their order. -/
structure Hit where
  text : Text
  groups : List (String × Text) := []
deriving DecidableEq, Repr

/-- A match continued by another. -/
def Hit.after (p : Part) (taken : Text) (h : Hit) : Hit where
  text := taken ++ h.text
  groups := p.name.toList.map (·, taken) ++ h.groups

namespace Pattern

/-- The match of the pattern at the front of `rest`, where `before` is the character that
precedes. -/
def match? : Pattern → Option Char → Text → Option Hit
  | [], _, _ => some ⟨[], []⟩
  | p :: ps, before, rest =>
    (p.piece.take? before rest).bind fun taken =>
      (match? ps (taken.getLast?.or before) (rest.drop taken.length)).map (Hit.after p taken)

theorem prefix_of_match? {ps : Pattern} {before : Option Char} {rest : Text} {h : Hit}
    (hm : match? ps before rest = some h) : h.text <+: rest := by
  induction ps generalizing before rest h with
  | nil =>
    simp only [match?, Option.some.injEq] at hm
    exact hm ▸ List.nil_prefix
  | cons p ps ih =>
    simp only [match?, Option.bind_eq_some_iff, Option.map_eq_some_iff] at hm
    obtain ⟨taken, ht, h', hm', rfl⟩ := hm
    obtain ⟨s, rfl⟩ := Piece.prefix_of_take? ht
    rw [List.drop_left] at hm'
    exact (List.prefix_append_right_inj taken).2 (ih hm')

end Pattern

end VectorFamily
