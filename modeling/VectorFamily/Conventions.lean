/-!
# Conventions of the canonical template

The canonical pair of files is written for one element type. Its conventions are the literal
placeholders that rewriting looks for in the pair, and the scheme by which files and classes are
named.
-/

namespace VectorFamily

/-- The placeholders and names of a canonical template. -/
structure Conventions where
  /-- What every class name and file name starts with. -/
  classPrefix : String := "Vector"
  /-- The element type. -/
  symbol : String := "std::double_t"
  /-- What follows the arity in a class name. -/
  classTag : String := "d"
  /-- What follows the prefix in a file name. -/
  fileTag : String := "D"
  /-- The initializer of default arguments. -/
  defaultLiteral : String := "0.0"
  /-- The value of the `Bytes:` annotation. -/
  byteSize : Nat := 8
  /-- The value of the `Range:` annotation. -/
  range : String := "1.7E +/- 308  precision: (15 digits)"
  /-- The token that makes a class visible outside its library. -/
  exportToken : String := "PFO_API"
  /-- The type parameter of the generic header. -/
  genericParameter : String := "T"
  /-- The extension of files that declare. -/
  interfaceExtension : String := "h"
  /-- The extension of files that define. -/
  implementationExtension : String := "cpp"
deriving DecidableEq, Repr, Inhabited

namespace Conventions

/-- The name without extension of the files with the given tag. -/
def stem (c : Conventions) (fileTag : String) : String := c.classPrefix ++ fileTag

def baseName (c : Conventions) : String := c.stem c.fileTag

/-- The interface file that an implementation with the given file tag includes. -/
def includeLabelFor (c : Conventions) (fileTag : String) : String :=
  c.stem fileTag ++ "." ++ c.interfaceExtension

def includeLabel (c : Conventions) : String := c.includeLabelFor c.fileTag

/-- The class of one arity without a tag, which is also the name of its class template. -/
def genericClassName (c : Conventions) (arity : Nat) : String := c.classPrefix ++ toString arity

def className (c : Conventions) (arity : Nat) : String := c.genericClassName arity ++ c.classTag

def genericFileName (c : Conventions) : String :=
  c.stem c.genericParameter ++ "." ++ c.interfaceExtension

def byteSizeNote (c : Conventions) : String := "Bytes: " ++ toString c.byteSize

def rangeNote (c : Conventions) : String := "Range: " ++ c.range

/-- The conventions that must not be blank, each with its name in a registry document. -/
def required (c : Conventions) : List (String × String) :=
  [("class_prefix", c.classPrefix), ("symbol", c.symbol), ("short_tag", c.classTag),
    ("file_tag", c.fileTag), ("default_literal", c.defaultLiteral), ("range", c.range),
    ("export_token", c.exportToken), ("generic_param", c.genericParameter),
    ("interface_extension", c.interfaceExtension),
    ("implementation_extension", c.implementationExtension)]

end Conventions

end VectorFamily
