import ScriptHost.Builtins.Standard
import ScriptHost.Config.Search
import ScriptHost.Registry.Json

/-!
The command line: what arguments ask for, and what is answered. Settings are looked up before
anything is answered, so settings that cannot be used are reported first.
-/
namespace ScriptHost.CommandLine

/-- The name of the program. -/
def programName : String := "brisk"

def version : String := "0.5.0"

/-- What can be asked for. -/
inductive Command where
  /-- All builtins, as lines or as JSON. -/
  | builtins (asJson : Bool)
  /-- One builtin. -/
  | describe (name : String)
  /-- The settings. -/
  | config
  deriving DecidableEq, Repr

/-- What arguments ask for. -/
inductive Invocation where
  | run (config : Option String) (command : Command)
  | version
  | help
  /-- The arguments make no sense. -/
  | misuse
  deriving DecidableEq, Repr

/-- Whether an argument stands for an option rather than for itself. -/
def isOption (arg : String) : Bool := arg.startsWith "-" && arg != "-"

/-- The path behind the option that names a file with settings, and the arguments behind that. -/
def takePath? : List String → Option (Option String × List String)
  | "--config" :: path :: rest =>
    some (if isOption path || path.isEmpty then none else some path, rest)
  | ["--config"] => some (none, [])
  | arg :: rest =>
    let option := "--config="
    if arg.startsWith option then
      let path := String.ofList (arg.toList.drop option.length)
      some (if path.isEmpty then none else some path, rest)
    else none
  | [] => none

theorem length_of_takePath? {args rest : List String} {path : Option String}
    (found : takePath? args = some (path, rest)) : rest.length < args.length := by
  unfold takePath? at found
  split at found
  · simp only [Option.some.injEq, Prod.mk.injEq] at found
    simp only [← found.2, List.length_cons]; omega
  · simp only [Option.some.injEq, Prod.mk.injEq] at found
    simp [← found.2]
  · simp only at found
    split at found
    · simp only [Option.some.injEq, Prod.mk.injEq] at found
      simp [← found.2]
    · contradiction
  · contradiction

/-- What stands behind the name of a command. -/
structure Given where
  config : Option String := none
  asJson : Bool := false
  /-- Arguments that stand for themselves, in reverse. -/
  names : List String := []

/-- What came of reading arguments. -/
inductive Reading (Result : Type) where
  | done (result : Result)
  | help
  | misuse

/-- Read the arguments behind the name of a command; `takesJson` tells whether it has that flag, and
`mostNames` how many arguments may stand for themselves. Behind two hyphens all do. -/
def readGiven (takesJson : Bool) (mostNames : Nat) (given : Given) (args : List String) :
    Reading Given :=
  match args with
  | [] => .done given
  | "--" :: rest =>
    if mostNames < given.names.length + rest.length then .misuse
    else .done { given with names := rest.reverse ++ given.names }
  | arg :: rest =>
    match _ : takePath? (arg :: rest) with
    | some (some path, behind) =>
      if given.config.isSome then .misuse
      else readGiven takesJson mostNames { given with config := path } behind
    | some (none, _) => .misuse
    | none =>
      if arg == "--help" || arg.startsWith "-h" then .help
      else if arg == "--json" && takesJson && !given.asJson then
        readGiven takesJson mostNames { given with asJson := true } rest
      else if isOption arg || given.names.length == mostNames then .misuse
      else readGiven takesJson mostNames { given with names := arg :: given.names } rest
  termination_by args.length
  decreasing_by
    · exact length_of_takePath? ‹_›
    · simp
    · simp

/-- Read a command with a given name. -/
def readCommand (outer : Option String) (name : String) (args : List String) : Invocation :=
  match readGiven (name == "builtins") (if name == "describe" then 1 else 0) {} args with
  | .help => .help
  | .misuse => .misuse
  | .done given =>
    let config := given.config <|> outer
    match name, given.names with
    | "builtins", [] => .run config (.builtins given.asJson)
    | "describe", [builtin] => .run config (.describe builtin)
    | "config", [] => .run config .config
    | _, _ => .misuse

/-- Whether a command has the name. -/
def isCommand (name : String) : Bool := ["builtins", "describe", "config"].contains name

/-- Whether help can be given on what the arguments name: on everything, or on one command. -/
def isHelpTopic : List String → Bool
  | [] => true
  | [name] => isCommand name || name == "help"
  | _ => false

/-- Read all arguments, where the path of a file with settings may already be given. -/
def readArgs (config : Option String) (args : List String) : Invocation :=
  match args with
  | [] => .misuse
  | arg :: rest =>
    match _ : takePath? (arg :: rest) with
    | some (some path, behind) => if config.isSome then .misuse else readArgs path behind
    | some (none, _) => .misuse
    | none =>
      if arg == "--version" || arg.startsWith "-V" then .version
      else if arg == "--help" || arg.startsWith "-h" then .help
      else if arg == "help" then if isHelpTopic rest then .help else .misuse
      else if isCommand arg then readCommand config arg rest
      else .misuse
  termination_by args.length
  decreasing_by exact length_of_takePath? ‹_›

/-- What arguments ask for. -/
def Invocation.ofArgs (args : List String) : Invocation := readArgs none args

/-- What the program answers. -/
structure Report where
  code : Nat
  output : String := ""
  errors : String := ""
  deriving DecidableEq, Repr

/-- A text between terminal codes. -/
def styled (style : Nat) (text : String) : String := s!"\x1b[{style}m{text}\x1b[0m"

/-- A success. -/
def Report.success (text : String) : Report := { code := 0, output := text ++ "\n" }

/-- A failure. -/
def Report.failure (message : String) : Report :=
  { code := 1, errors := styled 31 "error:" ++ " " ++ message ++ "\n" }

/-- A text moved right so that it fills so many places. -/
def padLeft (places : Nat) (text : String) : String :=
  String.ofList (List.replicate (places - text.length) ' ') ++ text

/-- All builtins on a line each. -/
def listing (registry : Registry) : String :=
  "\n".intercalate (registry.signatures.map fun signature =>
    padLeft 6 signature.id.text ++ "  " ++ signature.text)

/-- The builtin of a name: a function by that name, or a method by kind and name. -/
def findSignature? (registry : Registry) (name : String) : Option Signature :=
  match registry.findByName? name with
  | some builtin => some builtin.signature
  | none => registry.signatures.find? fun signature => signature.isMethod && signature.name == name

/-- Everything about a builtin. -/
def description (signature : Signature) : String :=
  let nature := match signature.receiver, signature.method with
    | some receiver, some method => "  method: " ++ method ++ " on " ++ receiver.text
    | _, _ => "  kind:   " ++ styled 90 "function"
  "\n".intercalate <|
    [styled 1 signature.text, "  id:     " ++ signature.id.text, nature] ++
    (signature.params.map fun (name, type) => "  param:  " ++ name ++ ": " ++ type.text) ++
    ["  result: " ++ signature.result.text]

/-- Answer a command under given settings. -/
def answer (registry : Registry) (config : Config) : Command → Report
  | .builtins true => .success registry.jsonText
  | .builtins false => .success (listing registry)
  | .describe name =>
    match findSignature? registry name with
    | some signature => .success (description signature)
    | none => .failure s!"no builtin named '{name}'"
  | .config => .success config.text

/-- How the program is used. -/
def usage : String :=
  "Usage: " ++ programName ++ " [--config <CONFIG>] <COMMAND>\n\n" ++
    "Commands:\n" ++
    "  builtins [--json]  List every registered builtin\n" ++
    "  describe <NAME>    Show one builtin\n" ++
    "  config             Print the settings"

/-- Run the program. -/
def run (registry : Registry) (surroundings : Surroundings) (args : List String) : Report :=
  match Invocation.ofArgs args with
  | .version => .success (programName ++ " " ++ version)
  | .help => .success usage
  | .misuse => { code := 2, errors := usage ++ "\n" }
  | .run none command => answer registry (Config.load surroundings) command
  | .run (some path) command =>
    match Config.loadFrom surroundings path with
    | .ok config => answer registry config command
    | .error error => .failure error.message

end ScriptHost.CommandLine
