import VectorFamily.Artifact
import VectorFamily.Pattern.Expansion
import VectorFamily.Pattern.Token

/-!
# Placeholders of the canonical template

The patterns that more than one part of the generator looks for.
-/

namespace VectorFamily

/-- The digits of the arities, the only one of two digits first. -/
def arityDigits : List Text := arities.reverse.map fun n => (toString n).toList

namespace Conventions

/-- Any canonical class name, whose arity is the group `arity`. -/
def classNamePattern (c : Conventions) : Pattern :=
  [.boundary, .text c.classPrefix.toList, .named "arity" (.choice arityDigits),
    .text c.classTag.toList, .boundary]

/-- The template of a class name with the same arity. -/
def classNameTemplate (c : Conventions) (suffix : Text) : Text :=
  Expansion.protect c.classPrefix.toList ++ "$\x7barity\x7d".toList ++ suffix

end Conventions

end VectorFamily
