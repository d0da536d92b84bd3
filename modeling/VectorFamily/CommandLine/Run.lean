import VectorFamily.Builtin.Profiles
import VectorFamily.CommandLine.Options
import VectorFamily.Generator
import VectorFamily.Registry.Document

/-!
# The command

A run reads the registry and the canonical pair, and writes the files of all profiles or compares
them with those that are there.
-/

namespace VectorFamily

/-- The registry that comes with the generator. -/
def Registry.builtin : Except RegistryError Registry := Registry.parse Builtin.profileDocument

namespace CommandLine

/-- How a run ended: its exit code, the lines that it printed, and its complaint if there is one. -/
structure Outcome where
  exitCode : Nat
  lines : List String := []
  complaint : String := ""
deriving DecidableEq, Repr

def versionLine : String := "vecgen 0.1.0"

def usageLines : List String :=
  ["Generates type-specialized and generic vector sources from the canonical VectorD template",
    "",
    "Usage: vecgen [OPTIONS]",
    "",
    "Options:",
    "      --export <BOOL>    Keep the export-visibility token in generated files [default: true]",
    "                         [possible values: true, false]",
    "  -i, --input <INPUT>    Directory holding the canonical template pair [default: .]",
    "  -o, --output <OUTPUT>  Output directory [default: NewVectors]",
    "      --profiles <FILE>  Type profile registry (defaults to the built-in registry)",
    "      --check            Render and compare against the output directory without writing",
    "  -v, --verbose...       Verbosity level",
    "  -h, --help             Print help",
    "  -V, --version          Print version"]

/-- One cause in a complaint, every line of it indented. Causes are numbered if there are
several. -/
def causeText (number : Option Nat) (cause : String) : String :=
  let start := number.elim "    " fun n => "    " ++ toString n ++ ": "
  let margin := number.elim "    " fun _ => "       "
  start ++ ("\n" ++ margin).intercalate (cause.splitOn "\n")

/-- What went wrong and why, the nearest cause first. -/
def complaintText (context : String) (causes : List String) : String :=
  let texts :=
    match causes with
    | [cause] => [causeText none cause]
    | _ => causes.zipIdx.map fun (cause, n) => causeText (some n) cause
  let causeLines := if causes.isEmpty then [] else "" :: "Caused by:" :: texts
  "\n".intercalate (("Error: " ++ context) :: causeLines) ++ "\n"

/-- A run that ends with a complaint. -/
def refused (context : String) (causes : List String) (lines : List String := []) : Outcome :=
  ⟨1, lines, complaintText context causes⟩

def failed (context : String) (failure : Failure) : Outcome :=
  refused context (failure.message :: failure.cause?.toList.map (·.message))

variable {m : Type → Type} [Monad m] [FileSystem m]

/-- The registry that the options ask for; else how the run ends. -/
def loadRegistry (o : Options) : m (Except Outcome Registry) := do
  match o.profiles with
  | some path =>
    match ← (Registry.load path).run with
    | .ok r => pure (.ok r)
    | .error e =>
      pure (.error (refused ("Failed to load type profiles from " ++ quoted path) [e.message]))
  | none =>
    match Registry.builtin with
    | .ok r => pure (.ok r)
    | .error e =>
      pure (.error (refused "Built-in type profile registry is invalid" [e.message]))

def generate (g : Generator) (dir : String) : m Outcome := do
  match ← (g.generate dir).run with
  | .error e => pure (failed ("Failed to generate vectors into " ++ quoted dir) e)
  | .ok report =>
    pure ⟨0,
      ["✅ Generated " ++ toString report.written ++ " files for " ++
          toString g.registry.profiles.length ++ " element types",
        "📁 Output: " ++ quoted report.directory,
        "🔑 Digest: " ++ report.digest], ""⟩

/-- Compares all files with those that are there. -/
def checkOutputs (g : Generator) (dir : String) : m Outcome := do
  match g.render with
  | .error e => pure (failed "Failed to render vectors" e)
  | .ok outputs =>
    let stale ← outputs.staleFiles dir
    if stale.isEmpty then
      pure ⟨0,
        ["✅ " ++ toString outputs.size ++ " files in " ++ quoted dir ++ " are up to date",
          "🔑 Digest: " ++ outputs.digest], ""⟩
    else
      pure (refused (toString stale.length ++ " of " ++ toString outputs.size ++
        " generated files in " ++ quoted dir ++ " are missing or out of date") []
        (stale.map ("❌ " ++ ·)))

def runOptions (o : Options) : m Outcome := do
  match ← loadRegistry o with
  | .error outcome => pure outcome
  | .ok r =>
    match ← (Generator.load r o.input o.keepExport).run with
    | .error e => pure (failed ("Failed to load master template from " ++ quoted o.input) e)
    | .ok g => if o.check then checkOutputs g o.output else generate g o.output

def run (args : List String) : m Outcome :=
  match parse args with
  | .ok o => runOptions o
  | .error .help => pure ⟨0, usageLines, ""⟩
  | .error .version => pure ⟨0, [versionLine], ""⟩
  | .error .usage => pure ⟨2, [], "\n".intercalate usageLines ++ "\n"⟩

end CommandLine

end VectorFamily
