import VectorFamily.Template.Layout

/-!
# The canonical pair

The pair is read once; its parts are found when it is read, and no part of it changes afterwards.
-/

namespace VectorFamily

/-- The canonical interface and implementation, with the places of their parts. -/
structure Master where
  interface : Text
  implementation : Text
  layout : Layout
deriving DecidableEq, Repr

namespace Master

/-- The pair with the given texts, whose line ends become single line feeds. -/
def ofSources (c : Conventions) (interface implementation : Text) : Except Failure Master := do
  let interface := interface.normalizeNewlines
  let implementation := implementation.normalizeNewlines
  pure ⟨interface, implementation, ← Layout.locate c interface implementation⟩

def source (m : Master) : ArtifactKind → Text
  | .interface => m.interface
  | .implementation => m.implementation

/-- The text of a section of the implementation, its marker line included. -/
def regionText (m : Master) (r : Region) : Text :=
  Text.between m.implementation.placedLines r.start r.stop

def aritySource? (m : Master) (arity : Nat) : Option Text :=
  (m.layout.regions.find? (·.arity == arity)).map m.regionText

/-- The stream operators of the interface, their marker line included. -/
def helpersText (m : Master) : Text :=
  Text.between m.interface.placedLines m.layout.helpers.1 m.layout.helpers.2

variable {μ : Type → Type} [Monad μ] [FileSystem μ]

def readSource (c : Conventions) (dir : String) (kind : ArtifactKind) :
    ExceptT Failure μ Text := do
  let path := FileSystem.join dir (masterFileName c kind)
  match ← (FileSystem.readText path : ExceptT FileSystem.Cause μ String).run with
  | .ok s => pure s.toList
  | .error cause => throw (.missingMaster kind path cause)

def load (c : Conventions) (dir : String) : ExceptT Failure μ Master := do
  let interface ← readSource c dir .interface
  let implementation ← readSource c dir .implementation
  ExceptT.mk (pure (ofSources c interface implementation))

end Master

end VectorFamily
