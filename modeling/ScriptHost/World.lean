import ScriptHost.Console
import ScriptHost.Error.Builtin
import ScriptHost.Service.Http
import ScriptHost.Value.Heap

/-!
The world that builtins work in: the services with their tables, the machine beneath them, and
the heap. An environment says which services a program is given; it never changes.
-/
namespace ScriptHost

/-- Everything that a builtin call can change. -/
structure World where
  heap : Heap := {}
  disk : Disk := Disk.empty
  network : Network := {}
  console : Console := {}
  /-- Milliseconds since the epoch. -/
  clock : Nat := 0
  files : FileService := {}
  sockets : SocketService := {}
  http : HttpService := {}

instance : Inhabited World := ⟨{}⟩

/-- Which services a program is given. -/
structure ServiceSet where
  files : Bool := true
  sockets : Bool := true
  http : Bool := true
  console : Bool := true
  deriving DecidableEq, Repr

/-- Runs a function of the program, which may change the world even when it fails. -/
abbrev Invoker := Closure → List Value → World → Except HostError Value × World

/-- What a program is given to work with. -/
structure Environment where
  services : ServiceSet := {}
  execRoot : String := "."
  structName : UInt32 → Option String := fun _ => none
  invoker : Option Invoker := none
  transport : Http.Transport := fun outgoing => .error (.unanswered outgoing.url.text)
  limits : Http.Limits := {}
  /-- Milliseconds that a request may take to arrive. -/
  requestTimeout : Nat := 30000

/-- A path as the program means it: relative ones start at the exec root. -/
def Environment.resolvePath (env : Environment) (path : String) : String :=
  Disk.joinPath env.execRoot path

/-- A builtin call that waits for a peer. -/
inductive Suspended where
  /-- `socket.accept` at a listening socket that the call holds on to. -/
  | acceptStream (server : Handle) (listener : Network.ListenerId)
  /-- `socket.read` from a connection that the call holds on to. -/
  | readStream (handle : Handle) (endpoint : Network.EndpointId) (limit : Nat)
  /-- `http.accept` before a connection arrived. -/
  | acceptRequest (server : Handle) (listener : Network.ListenerId)
  /-- `http.accept` behind that. -/
  | readRequest (server : Handle) (listener : Network.ListenerId)
      (endpoint : Network.EndpointId) (deadline : Nat)
  deriving DecidableEq, Repr

/-- How far a builtin call has come. -/
inductive Progress where
  | finished (value : Value)
  | suspended (call : Suspended)

/-- A step in the world that may fail; what it changed before failing stays changed. -/
abbrev Action := ExceptT BuiltinError (StateM World)

namespace Action

/-- The result of a check. -/
def ofExcept : Except BuiltinError α → Action α
  | .ok result => pure result
  | .error error => throw error

/-- The result of a check by a host service. -/
def ofHost : Except HostError α → Action α
  | .ok result => pure result
  | .error error => throw (.host error)

/-- A step of a host service: it uses a part of the world and puts it back, whether it fails or
not. -/
def hostStep (use : World → Except HostError α × State) (putBack : World → State → World) :
    Action α := do
  let world ← get
  let (outcome, state) := use world
  set (putBack world state)
  ofHost outcome

/-- Fail unless a service is there. -/
def need (present : Bool) (service : Service) : Action Unit :=
  if present then pure () else throw (.host (.missingService service))

/-- Run in a world. -/
def runIn (action : Action α) (world : World) : Except BuiltinError α × World :=
  action.run world

end Action

end ScriptHost
