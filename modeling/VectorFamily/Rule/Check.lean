import VectorFamily.Failure

/-!
# Rules and placeholders that must not fail
-/

namespace VectorFamily

namespace Rule

/-- Applies a rule, which fails if it has to match in the artifact and does not. -/
def applyChecked (target : String) (kind : ArtifactKind) (t : Text) (r : Rule) :
    Except Failure Text :=
  let out := r.apply t
  if out.2 = 0 && r.expect.requiredFor kind then
    .error (.ruleNotApplied target kind r.stage r.name)
  else .ok out.1

def applyAll (target : String) (kind : ArtifactKind) (rules : List Rule) (t : Text) :
    Except Failure Text :=
  rules.foldlM (applyChecked target kind) t

end Rule

/-- Accepts a text that holds no match of the given placeholders; the first placeholder that has one
fails it. -/
def checkPlaceholders (target : String) (kind : ArtifactKind) (t : Text) :
    List Pattern → Except Failure Unit
  | [] => .ok ()
  | p :: ps =>
    match p.find? t with
    | some (_, h, _) => .error (.incomplete target kind h.text)
    | none => checkPlaceholders target kind t ps

end VectorFamily
