import VectorFamily.Rule.Basic
import VectorFamily.Text.Quoted
import VectorFamily.FileSystem.Basic

/-!
# Why a generation fails
-/

namespace VectorFamily

/-- Why artifacts cannot be rendered or written. -/
inductive Failure where
  | missingMaster (kind : ArtifactKind) (path : String) (cause : FileSystem.Cause)
  /-- A canonical placeholder is still there after rewriting. -/
  | incomplete (target : String) (kind : ArtifactKind) (placeholder : Text)
  | ruleNotApplied (target : String) (kind : ArtifactKind) (stage : Stage) (rule : String)
  | markerMissing (kind : ArtifactKind) (marker : String)
  /-- A marker stands on two lines. -/
  | markerRepeated (kind : ArtifactKind) (marker : String)
  | markerMisplaced (kind : ArtifactKind) (early late : String)
  | duplicateOutput (fileName : String)
  | notWritten (path : String) (cause : FileSystem.Cause)
deriving DecidableEq, Repr

namespace Failure

def message : Failure → String
  | missingMaster kind path cause =>
    "Canonical " ++ kind.name ++ " artifact not readable at " ++ quoted path ++ ": " ++
      cause.message
  | incomplete target kind placeholder =>
    "Placeholder `" ++ String.ofList placeholder ++ "` survived rewriting of the " ++ kind.name ++
      " artifact for '" ++ target ++ "'"
  | ruleNotApplied target kind stage rule =>
    "Rule `" ++ rule ++ "` (" ++ stage.name ++ ") matched nothing in the " ++ kind.name ++
      " artifact for '" ++ target ++ "'"
  | markerMissing kind marker =>
    "Marker `" ++ marker ++ "` not found in the canonical " ++ kind.name ++ " artifact"
  | markerRepeated kind marker =>
    "Malformed canonical " ++ kind.name ++ " artifact: marker `" ++ marker ++
      "` appears more than once"
  | markerMisplaced kind early late =>
    "Malformed canonical " ++ kind.name ++ " artifact: marker `" ++ early ++ "` appears before `" ++
      late ++ "`"
  | duplicateOutput fileName => "Two artifacts would be written to '" ++ fileName ++ "'"
  | notWritten path cause => "Failed to write " ++ quoted path ++ ": " ++ cause.message

/-- What the file system reported, if that is why the generation fails. -/
def cause? : Failure → Option FileSystem.Cause
  | missingMaster _ _ cause => some cause
  | notWritten _ cause => some cause
  | _ => none

end Failure

end VectorFamily
