import VectorFamily.Conventions
import VectorFamily.Profile

/-!
# Artifacts

Every element type has two artifacts, an interface that declares its classes and an implementation
that defines their members. There is a class for each arity from two to ten.
-/

namespace VectorFamily

/-- The two files of a pair. -/
inductive ArtifactKind where
  | interface
  | implementation
deriving DecidableEq, Repr, Inhabited

namespace ArtifactKind

/-- Both kinds, in the order in which they are rendered. -/
def all : List ArtifactKind := [interface, implementation]

theorem mem_all (kind : ArtifactKind) : kind ∈ all := by
  cases kind <;> decide

/-- The kind as messages name it. -/
def name : ArtifactKind → String
  | interface => "interface"
  | implementation => "implementation"

def extension (c : Conventions) : ArtifactKind → String
  | interface => c.interfaceExtension
  | implementation => c.implementationExtension

end ArtifactKind

def artifactFileName (c : Conventions) (p : Profile) (kind : ArtifactKind) : String :=
  c.stem p.fileTag ++ "." ++ kind.extension c

def masterFileName (c : Conventions) (kind : ArtifactKind) : String :=
  c.baseName ++ "." ++ kind.extension c

/-- A file that a run produces. -/
structure Artifact where
  fileName : String
  contents : String
deriving DecidableEq, Repr, Inhabited

/-! ### Arities and fields -/

/-- The arities that have a class. -/
def arities : List Nat := [2, 3, 4, 5, 6, 7, 8, 9, 10]

/-- The fields of the classes with up to three components. -/
def coordinates : List Char := ['x', 'y', 'z']

/-- The fields of the classes with four components or more. -/
def letters : List Char := ['a', 'b', 'c', 'd', 'e', 'f', 'g', 'h', 'i', 'j']

/-- The names of the fields of the class with the given arity; none if there is no such class. -/
def fields (arity : Nat) : List Char :=
  if arity = 2 ∨ arity = 3 then coordinates.take arity
  else if 4 ≤ arity ∧ arity ≤ 10 then letters.take arity
  else []

/-- Every name that some class has a field by. -/
def fieldAlphabet : List Char := letters ++ coordinates

theorem fields_subset (arity : Nat) : fields arity ⊆ fieldAlphabet := by
  intro f hf
  unfold fields at hf
  split at hf
  · exact List.mem_append_right _ (List.mem_of_mem_take hf)
  · split at hf
    · exact List.mem_append_left _ (List.mem_of_mem_take hf)
    · simp at hf

end VectorFamily
