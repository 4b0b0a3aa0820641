import ScriptHost.Builtins.Waiting

/-!
Builtins of the HTTP client and server.
-/
namespace ScriptHost.Builtins.Http

/-- What a finished exchange gives. -/
def responseShape : TypeDesc :=
  .shape [("status", .int), ("headers", .dict .string), ("body", .bytes)]

/-- What an accepted request gives. -/
def requestShape : TypeDesc :=
  .shape [("handle", .handle), ("method", .string), ("path", .string),
    ("headers", .dict .string), ("body", .bytes)]

/-- Run a step of the HTTP service. -/
def step (use : HttpService → Network → Except HostError α × HttpService × Network) : Action α :=
  Action.hostStep (fun world => use world.http world.network)
    fun world (http, network) => { world with http, network }

def request : Builtin where
  signature := Signature.function ⟨300⟩ "http.request"
    |>.param "method" .string
    |>.param "url" .string
    |>.param "headers" (.dict .string)
    |>.param "body" (.optional .bytes)
    |>.returns responseShape
  run env args := do
    let method ← Action.ofExcept (Args.string args 0)
    let url ← Action.ofExcept (Args.string args 1)
    let headers ← Action.ofExcept (Args.headers (← get).heap args 2)
    let body ← Action.ofExcept (Args.body args 3)
    Action.need env.services.http .http
    let answer ← Action.ofHost (ScriptHost.Http.exchange env.transport method url headers body)
    let headers ← newHeaders answer.headerMap
    return .finished (.ofFields [.ofNat answer.status, headers, .bytes answer.body])

def listen : Builtin where
  signature := Signature.function ⟨301⟩ "http.listen"
    |>.param "host" .string
    |>.param "port" .int
    |>.returns .handle
  run env args := do
    let host ← Action.ofExcept (Args.string args 0)
    let port ← Action.ofExcept (Args.int args 1)
    Action.need env.services.http .http
    let handle ← step fun http network => http.listen network host port
    return .finished (.ofHandle handle)

def accept : Builtin where
  signature := Signature.function ⟨302⟩ "http.accept"
    |>.param "server" .handle
    |>.returns requestShape
  run env args := do
    let server ← Action.ofExcept (Args.handle args 0)
    Action.need env.services.http .http
    let listener ← Action.ofHost ((← get).http.listeners.get server)
    holdOn listener
    (Suspended.acceptRequest server listener).advance env

def respond : Builtin where
  signature := Signature.function ⟨303⟩ "http.respond"
    |>.param "request" .handle
    |>.param "status" .int
    |>.param "headers" (.dict .string)
    |>.param "body" .bytes
  run env args := do
    let handle ← Action.ofExcept (Args.handle args 0)
    let status ← Action.ofExcept (Args.int args 1)
    let headers ← Action.ofExcept (Args.headers (← get).heap args 2)
    Action.need env.services.http .http
    let body ← Action.ofExcept (Args.bytes args 3)
    step fun http network => http.respond network handle status headers body
    return .finished .unit

def close : Builtin where
  signature := Signature.function ⟨304⟩ "http.close"
    |>.param "handle" .handle
  run env args := do
    Action.need env.services.http .http
    let handle ← Action.ofExcept (Args.handle args 0)
    step fun http network => http.close network handle
    return .finished .unit

def localPort : Builtin where
  signature := Signature.function ⟨305⟩ "http.localPort"
    |>.param "server" .handle
    |>.returns .int
  run env args := do
    Action.need env.services.http .http
    let handle ← Action.ofExcept (Args.handle args 0)
    let world ← get
    let port ← Action.ofHost (world.http.localPort world.network handle)
    return .finished (.ofNat port)

/-- The builtins of the HTTP client and server in the order of their numbers. -/
def all : List Builtin := [request, listen, accept, respond, close, localPort]

end ScriptHost.Builtins.Http
