import ScriptHost.Builtins.ByteStrings
import ScriptHost.Builtins.Console
import ScriptHost.Builtins.Dicts
import ScriptHost.Builtins.Files
import ScriptHost.Builtins.Http
import ScriptHost.Builtins.Introspection
import ScriptHost.Builtins.Lists
import ScriptHost.Builtins.Optionals
import ScriptHost.Builtins.Sockets
import ScriptHost.Builtins.Strings
import ScriptHost.Builtins.Time

/-!
The registry of all standard builtins.
-/
namespace ScriptHost

/-- All standard builtins in the order of their numbers. -/
def standardBuiltins : List Builtin :=
  Builtins.Files.all ++ Builtins.Sockets.all ++ Builtins.Http.all ++ Builtins.Time.all ++
    Builtins.Console.all ++ Builtins.Introspection.all ++ Builtins.Strings.all ++
    Builtins.ByteStrings.all ++ Builtins.Lists.all ++ Builtins.Dicts.all ++ Builtins.Optionals.all

/-- The registry that programs are given. -/
def standardRegistry : Registry := Registry.empty.registerAll standardBuiltins

end ScriptHost
