import VectorFamily.GenericHeader
import VectorFamily.Output.Commit
import VectorFamily.Registry.Basic
import VectorFamily.Specialization

/-!
# Generators

A generator holds a registry and the canonical pair. It renders two artifacts for each profile, and
the generic header.
-/

namespace VectorFamily

/-- What a run starts from. -/
structure Generator where
  registry : Registry
  master : Master
  /-- Whether the export token stays. -/
  keepExport : Bool := true
deriving DecidableEq, Repr

namespace Generator

/-- The profile, to be made from the template of the registry. -/
def specialization (g : Generator) (p : Profile) : Specialization :=
  ⟨g.registry.conventions, p, g.keepExport⟩

def renderArtifact (g : Generator) (p : Profile) (kind : ArtifactKind) :
    Except Failure Artifact := do
  let t ← (g.specialization p).run kind (g.master.source kind)
  pure ⟨artifactFileName g.registry.conventions p kind, String.ofList t⟩

/-- Both artifacts of a profile, the interface first. -/
def renderProfile (g : Generator) (p : Profile) : Except Failure (List Artifact) :=
  ArtifactKind.all.mapM (g.renderArtifact p)

/-- The artifacts of all profiles, in the order of the registry. -/
def renderProfiles (g : Generator) : Except Failure (List Artifact) :=
  return (← g.registry.profiles.mapM g.renderProfile).flatten

def expectedOutputs (g : Generator) : Nat :=
  g.registry.profiles.length * ArtifactKind.all.length + 1

/-- The artifacts of all profiles and the generic header. -/
def render (g : Generator) : Except Failure OutputSet := do
  let outputs ← OutputSet.empty.insertAll (← g.renderProfiles)
  outputs.insert (← GenericHeader.render g.registry.conventions g.master)

variable {m : Type → Type} [Monad m] [FileSystem m]

def load (r : Registry) (dir : String) (keepExport : Bool) : ExceptT Failure m Generator :=
  return ⟨r, ← Master.load r.conventions dir, keepExport⟩

def generate (g : Generator) (dir : String) : ExceptT Failure m CommitReport := do
  let outputs ← ExceptT.mk (pure g.render)
  outputs.commit dir

/-- Renders the artifacts of the profiles and writes them into a directory. -/
def emit (g : Generator) (dir : String) : ExceptT Failure m CommitReport := do
  let outputs ← ExceptT.mk (pure (g.renderProfiles.bind OutputSet.empty.insertAll))
  outputs.commit dir

end Generator

end VectorFamily
