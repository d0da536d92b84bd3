import VectorFamily.Placeholder
import VectorFamily.Rule.Check
import VectorFamily.Template.Master

/-!
# The generic header

One header holds a class template for every arity. The body of each is the section of the canonical
implementation: its functions lose their qualifiers, the class gets its name without the tag, the
element type becomes the type parameter, and a default constructor is put behind the marker line.
The stream operators of the interface follow as function templates.
-/

namespace VectorFamily

namespace GenericHeader

/-- The target that failures name. -/
def target : String := "generic"

/-- One section before and after it is made generic. -/
structure Fragment where
  arity : Nat
  source : Text
  body : Text
deriving DecidableEq, Repr

variable (c : Conventions)

def symbolRule : Rule where
  name := "generic.symbol"
  stage := .generalization
  edit := .substitute [Pattern.token c.symbol.toList] (.replace c.genericParameter.toList)

/-- What must be gone from the generic header: canonical class names and the element type. -/
def placeholders : List Pattern := [c.classNamePattern, Pattern.token c.symbol.toList]

/-- Applies rules and checks that nothing canonical is left. -/
def rewrite (rules : List Rule) (t : Text) : Except Failure Text := do
  let t ← Rule.applyAll target .implementation rules t
  checkPlaceholders target .implementation t (placeholders c)
  pure t

/-! ### Class templates -/

/-- The line that marks the section of a class. -/
def markerLine (generic : Text) : Pattern :=
  [.lineStart, .run .indent 0, .text ("// ".toList ++ generic), .lineEnd]

/-- A default constructor behind an indentation. -/
def defaultConstructor (indent generic : Text) : Text :=
  indent ++ "inline ".toList ++ generic ++ "() noexcept \x7b\x7d".toList

/-- The rules that make a section generic; `indent` stands before its marker. -/
def fragmentRules (arity : Nat) (indent : Text) : List Rule :=
  let name := (c.className arity).toList
  let generic := (c.genericClassName arity).toList
  [{ name := "generic.qualifier", stage := .generalization
     expect := .matchIn .both
     edit := .substitute [Pattern.token name ++ [.text "::".toList]] .delete },
   { name := "generic.class-name", stage := .generalization
     expect := .matchIn .both
     edit := .substitute [Pattern.token name] (.replace generic) },
   symbolRule c,
   { name := "generic.default-constructor", stage := .generalization
     expect := .matchIn .both
     edit := .insertAfterLine (markerLine generic) (defaultConstructor indent generic) }]

/-- The body of a class template, out of the section of its arity. -/
def generalize (arity : Nat) (source : Text) : Except Failure Text :=
  let t := source.indented
  -- the section starts with its marker line
  rewrite c (fragmentRules c arity (t.takeWhile CharClass.indent.has)) t

/-- The section of one arity with its generic form. -/
def fragment (m : Master) (r : Region) : Except Failure Fragment := do
  let source := (m.regionText r).trimEnd
  pure ⟨r.arity, source, ← generalize c r.arity source⟩

def fragments (m : Master) : Except Failure (List Fragment) :=
  m.layout.regions.mapM (fragment c m)

/-- The class template around a body. -/
def classDeclaration (f : Fragment) : Text :=
  let parameter := c.genericParameter.toList
  "\ttemplate<class ".toList ++ parameter ++ ">\n\tclass ".toList ++
    (c.genericClassName f.arity).toList ++ "\n\t\x7b\n\tpublic:\n\t\t".toList ++ parameter ++
    [' '] ++ ", ".toList.intercalate ((fields f.arity).map ([·])) ++ ";\n\tpublic:\n".toList ++
    f.body ++ "\n\t\x7d;".toList

/-! ### Stream operators -/

/-- The start of a function of the header, behind its indentation. -/
def functionStart : Pattern :=
  [.lineStart, .named "indent" (.run .indent 0), .text "inline static".toList, .boundary]

/-- The rules that make function templates out of the stream operators. -/
def helperRules : List Rule :=
  let parameter := Expansion.protect c.genericParameter.toList
  [{ name := "generic.helper-template", stage := .generalization
     expect := .matchIn .both
     edit := .substitute [functionStart]
      (.expand ("$\x7bindent\x7dtemplate<class ".toList ++ parameter ++
        ">\n$\x7bindent\x7dinline static".toList)) },
   { name := "generic.helper-class", stage := .generalization
     expect := .matchIn .both
     edit := .substitute [c.classNamePattern]
      (.expand (c.classNameTemplate ('<' :: parameter ++ ['>']))) },
   symbolRule c]

def helpers (m : Master) : Except Failure Text := rewrite c (helperRules c) m.helpersText.trimEnd

/-! ### The header -/

def assemble (scope : Text) (fragments : List Fragment) (helpers : Text) : Text :=
  "#pragma once\n#include <iostream>\n#include <cstdint>\n\nnamespace ".toList ++ scope ++
    " \x7b\n\n".toList ++ "\n\n".toList.intercalate (fragments.map (classDeclaration c)) ++
    "\n\n".toList ++ helpers ++ "\n\x7d\n".toList

/-- The file with the class templates of all arities. -/
def render (m : Master) : Except Failure Artifact := do
  let fragments ← fragments c m
  let helpers ← helpers c m
  pure ⟨c.genericFileName, String.ofList (assemble c m.layout.scope fragments helpers)⟩

end GenericHeader

end VectorFamily
