import ScriptHost.Proofs.Builtins.ArgumentReading
import ScriptHost.Proofs.Builtins.Services
import ScriptHost.Proofs.Handle.Holdings

/-! What the builtins on files, sockets and HTTP do with handles: what the handle that a builtin
takes first has to stand for, what becomes of that, and what a new handle is given for. -/
namespace ScriptHost

/-- What a call is for, as far as handles go. -/
inductive Use where
  | works
  | reads
  | writes
  | issues (kind : ResourceKind)
  | tellsPort
  | closes
  | answers
  deriving DecidableEq, Repr

/-- How a builtin deals with handles: what the handle that it takes first has to stand for, and when
the arguments behind that are sound. -/
structure Role where
  takes : List ResourceKind := []
  use : Use := .works
  sound : Heap → List Value → Prop := fun _ _ => True

namespace Role

/-- A handle is gone once its resource was used. -/
def Consumes (role : Role) : Prop := role.use = .closes ∨ role.use = .answers

instance (role : Role) : Decidable role.Consumes :=
  inferInstanceAs (Decidable (role.use = .closes ∨ role.use = .answers))

/-- A call that gives a handle takes none away. -/
theorem not_consumes_of_issues {role : Role} (use : role.use = .issues kind) : ¬role.Consumes := by
  intro consumes
  rw [Consumes, use] at consumes
  cases consumes <;> contradiction

/-- A length to read that is not negative. -/
def SoundLength (_ : Heap) (args : List Value) : Prop :=
  ∀ length, Args.int args 1 = .ok length → 0 ≤ length

/-- A status code with headers that may be sent. -/
def SoundAnswer (heap : Heap) (args : List Value) : Prop :=
  (∀ status, Args.int args 1 = .ok status → 100 ≤ status ∧ status ≤ 999) ∧
    ∃ headers, Args.headers heap args 2 = .ok headers ∧ headers.validate = .ok ()

open Builtins

/-- The builtins on files, sockets and HTTP. -/
def all : List (Builtin × Role) :=
  [(Files.openFile, { use := .issues .file }),
    (Files.read, { takes := [.file], use := .reads, sound := SoundLength }),
    (Files.write, { takes := [.file], use := .writes }),
    (Files.close, { takes := [.file], use := .closes }),
    (Files.pathExists, {}),
    (Files.remove, {}),
    (Files.makeDirectory, {}),
    (Files.execRoot, {}),
    (Sockets.connect, { use := .issues .socket }),
    (Sockets.listen, { use := .issues .listener }),
    (Sockets.accept, { takes := [.listener], use := .issues .socket }),
    (Sockets.read, { takes := [.socket], use := .reads, sound := SoundLength }),
    (Sockets.write, { takes := [.socket], use := .writes }),
    (Sockets.close, { takes := [.socket, .listener], use := .closes }),
    (Sockets.localPort, { takes := [.socket, .listener], use := .tellsPort }),
    (Http.request, {}),
    (Http.listen, { use := .issues .httpListener }),
    (Http.accept, { takes := [.httpListener], use := .issues .httpRequest }),
    (Http.respond, { takes := [.httpRequest], use := .answers, sound := SoundAnswer }),
    (Http.close, { takes := [.httpListener, .httpRequest], use := .closes }),
    (Http.localPort, { takes := [.httpListener], use := .tellsPort })]

/-- Every builtin of the three services has its role. -/
theorem map_fst_all : all.map Prod.fst = Files.all ++ Sockets.all ++ Http.all := rfl

end Role

/-- The handle in a value that a call gives. -/
def Value.handle? : Value → Option Handle
  | .bytes data | .record _ (.bytes data :: _) => (Handle.ofBytes data).toOption
  | _ => none

theorem Value.handle?_ofHandle (handle : Handle) :
    (Value.ofHandle handle).handle? = some handle := by
  rw [ofHandle, Value.handle?, Handle.ofBytes_toBytes]
  rfl

/-- Which services a program is given. -/
def Environment.provides (env : Environment) : Service → Bool
  | .filesystem => env.services.files
  | .network => env.services.sockets
  | .http => env.services.http
  | .console => env.services.console
  | .closures => env.invoker.isSome
  | .named _ => false

namespace World

/-- Every handle in use was issued by a service that the program is given. -/
def Provided (world : World) (env : Environment) : Prop :=
  ∀ kind handle, (world.held kind handle).isSome = true → env.provides kind.service = true

/-- The handle that a call names stands for a resource of one of the kinds. -/
def Finds (world : World) (kinds : List ResourceKind) (args : List Value) : Prop :=
  ∃ handle, Args.handle args 0 = .ok handle ∧
    ∃ kind ∈ kinds, (world.held kind handle).isSome = true

/-- The world once the resource of a handle is closed. -/
def closed (world : World) (kind : ResourceKind) (handle : Handle) (holding : Holding) : World :=
  { world.drop kind handle with network := holding.shutDown world.network }

end World

end ScriptHost
