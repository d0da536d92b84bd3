/-!
# Options of the command line

Arguments are read from left to right; the first that asks for help or the version, or is wrong,
ends the reading. A setting takes its value from the same argument or from the next one, and a
value cannot start with a dash. Only the verbosity may be given more than once.
-/

namespace VectorFamily.CommandLine

/-- What the command line asks for. -/
structure Options where
  /-- Whether the export token stays. -/
  keepExport : Bool := true
  /-- The directory of the canonical pair. -/
  input : String := "."
  /-- The directory for the files that are made. -/
  output : String := "NewVectors"
  /-- The file of the registry; without one the built-in registry is used. -/
  profiles : Option String := none
  /-- Compare with the files that are there and write nothing. -/
  check : Bool := false
  /-- How much is logged. -/
  verbosity : Nat := 0
deriving DecidableEq, Repr, Inhabited

/-- Why the arguments ask for no run. -/
inductive Stop where
  | help
  | version
  | usage
deriving DecidableEq, Repr

/-- The options that have a value. -/
inductive Setting where
  | exportToken
  | input
  | output
  | profiles
deriving DecidableEq, Repr

/-- The options without one. -/
inductive Flag where
  | check
  | verbose
  | help
  | version
deriving DecidableEq, Repr

namespace Setting

def ofName? : String → Option Setting
  | "export" => some exportToken
  | "input" => some input
  | "output" => some output
  | "profiles" => some profiles
  | _ => none

def ofLetter? : Char → Option Setting
  | 'i' => some input
  | 'o' => some output
  | _ => none

end Setting

namespace Flag

def ofName? : String → Option Flag
  | "check" => some check
  | "verbose" => some verbose
  | "help" => some help
  | "version" => some version
  | _ => none

def ofLetter? : Char → Option Flag
  | 'v' => some verbose
  | 'h' => some help
  | 'V' => some version
  | _ => none

end Flag

/-- The truth value that a word stands for, in letters of any case. -/
def truth? (word : String) : Option Bool :=
  let w := word.map Char.toLower
  if ["y", "yes", "t", "true", "on", "1"].contains w then some true
  else if ["n", "no", "f", "false", "off", "0"].contains w then some false
  else none

/-- The options read so far, and which of those that may be given once were given. -/
structure Reading where
  options : Options := {}
  settings : List Setting := []
  /-- The setting that waits for its value. -/
  pending : Option Setting := none
deriving DecidableEq, Repr

namespace Reading

def set (r : Reading) (s : Setting) (value : String) : Except Stop Reading :=
  if r.settings.contains s then .error .usage
  else
    let accept (o : Options) : Except Stop Reading := .ok ⟨o, s :: r.settings, none⟩
    match s with
    | .exportToken =>
      match truth? value with
      | some b => accept { r.options with keepExport := b }
      | none => .error .usage
    | _ =>
      if value.isEmpty then .error .usage
      else
        match s with
        | .input => accept { r.options with input := value }
        | .output => accept { r.options with output := value }
        | _ => accept { r.options with profiles := some value }

def raise (r : Reading) : Flag → Except Stop Reading
  | .help => .error .help
  | .version => .error .version
  | .verbose => .ok { r with options := { r.options with verbosity := r.options.verbosity + 1 } }
  | .check =>
    if r.options.check then .error .usage
    else .ok { r with options := { r.options with check := true } }

/-- Reads an option by its long name, with the value behind an equals sign if there is one. -/
def long (r : Reading) (body : String) : Except Stop Reading :=
  let chars := body.toList
  let name := String.ofList (chars.takeWhile (· != '='))
  let value? := (chars.dropWhile (· != '=')).tail?.map String.ofList
  match Setting.ofName? name, Flag.ofName? name, value? with
  | some s, _, some value => r.set s value
  | some s, _, none => .ok { r with pending := some s }
  | none, some f, none => r.raise f
  | _, _, _ => .error .usage

/-- Reads options by their letters. What follows the letter of a setting is its value; an equals
sign may stand between them. -/
def short (r : Reading) : List Char → Except Stop Reading
  | [] => .ok r
  | c :: cs =>
    match Flag.ofLetter? c, Setting.ofLetter? c with
    | some f, _ => do short (← r.raise f) cs
    | none, some s =>
      match cs with
      | [] => .ok { r with pending := some s }
      | '=' :: value => r.set s (String.ofList value)
      | value => r.set s (String.ofList value)
    | none, none => .error .usage

/-- Reads one argument after another. Behind two dashes nothing may follow. -/
def arguments (r : Reading) : List String → Except Stop Options
  | [] => if r.pending.isSome then .error .usage else .ok r.options
  | arg :: rest =>
    match r.pending, arg.toList with
    | none, ['-', '-'] => if rest.isEmpty then .ok r.options else .error .usage
    | none, '-' :: '-' :: body => do arguments (← r.long (String.ofList body)) rest
    -- a dash alone is a value, not the start of an option
    | some s, ['-'] => do arguments (← r.set s arg) rest
    | none, ['-'] => .error .usage
    | none, '-' :: letters => do arguments (← r.short letters) rest
    | some _, '-' :: _ => .error .usage
    | some s, _ => do arguments (← r.set s arg) rest
    | none, _ => .error .usage

end Reading

def parse (args : List String) : Except Stop Options := Reading.arguments {} args

end VectorFamily.CommandLine
