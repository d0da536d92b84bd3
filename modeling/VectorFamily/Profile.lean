/-!
# Profiles of element types

A profile holds what sets the files of one element type apart. Its category says which adaptations
the arithmetic and the output of that type need.
-/

namespace VectorFamily

/-- How an element type behaves in arithmetic and in output. -/
inductive Category where
  /-- Floating point, or an integer wide enough not to be promoted. -/
  | standardNumeric
  /-- Two values; stepping and dividing mean nothing. -/
  | boolean
  /-- An integer that arithmetic promotes and that prints as a character. -/
  | narrowInteger
  /-- A character of a wide stream, promoted like a narrow integer. -/
  | wideCharacter
deriving DecidableEq, Repr, Inhabited

namespace Category

def all : List Category := [standardNumeric, boolean, narrowInteger, wideCharacter]

/-- Results of arithmetic have to be cast back to the element type. -/
def needsNarrowingCast (c : Category) : Bool := c != standardNumeric

/-- Fields have to be promoted before they are written to a stream. -/
def needsPrintableStream (c : Category) : Bool := c == narrowInteger || c == wideCharacter

def name : Category → String
  | standardNumeric => "standard-numeric"
  | boolean => "boolean"
  | narrowInteger => "narrow-integer"
  | wideCharacter => "wide-character"

def ofName? (s : String) : Option Category := all.find? (·.name == s)

end Category

/-- One element type. -/
structure Profile where
  /-- The type as generated sources write it. -/
  symbol : String
  /-- What follows the arity in the names of its classes. -/
  classTag : String
  /-- What follows the prefix in the names of its files. -/
  fileTag : String
  /-- Its zero. -/
  defaultLiteral : String
  /-- Its size in bytes on the reference platform. -/
  byteSize : Nat
  /-- Its values, for the reader. -/
  range : String
  /-- The interface file that its implementation includes. -/
  includeLabel : String
  /-- What its arithmetic and output need. -/
  category : Category
deriving DecidableEq, Repr, Inhabited

namespace Profile

def byteSizeNote (p : Profile) : String := "Bytes: " ++ toString p.byteSize

def rangeNote (p : Profile) : String := "Range: " ++ p.range

end Profile

end VectorFamily
