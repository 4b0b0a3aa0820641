import ScriptHost.Args
import ScriptHost.Registry
import ScriptHost.Value.Display

/-!
Builtins on the console.
-/
namespace ScriptHost.Builtins.Console

/-- Print the text of the first argument and what follows it through a channel. -/
def printVia (write : ScriptHost.Console → String → ScriptHost.Console) (behind : String)
    (env : Environment) (args : List Value) : Action Progress := do
  let value ← Action.ofExcept (Args.any args 0)
  Action.need env.services.console .console
  let world ← get
  if let some cause := world.console.faults .print then throw (.host (.io .print cause))
  set { world with console := write world.console (world.heap.text value ++ behind) }
  return .finished .unit

def print : Builtin where
  signature := Signature.function ⟨500⟩ "io.print"
    |>.param "value" .any
  run := printVia ScriptHost.Console.write ""

def printLine : Builtin where
  signature := Signature.function ⟨501⟩ "io.println"
    |>.param "value" .any
  run := printVia ScriptHost.Console.write "\n"

def printErrorLine : Builtin where
  signature := Signature.function ⟨502⟩ "io.eprintln"
    |>.param "value" .any
  run := printVia ScriptHost.Console.writeError "\n"

def readLine : Builtin where
  signature := Signature.function ⟨503⟩ "io.readLine"
    |>.returns (.optional .string)
  run env _ := do
    Action.need env.services.console .console
    let world ← get
    let (line, console) := world.console.readLine
    set { world with console }
    match line with
    | .ok line => return .finished (.ofOption (line.map Value.string))
    | .error cause => throw (.host (.io .readLine cause))

/-- The builtins on the console in the order of their numbers. -/
def all : List Builtin := [print, printLine, printErrorLine, readLine]

end ScriptHost.Builtins.Console
