import ScriptHost.Builtins.Http
import ScriptHost.Proofs.Builtins.Calls
import ScriptHost.Proofs.Value.Conformance

/-! What is regular in a builtin: a call that fails leaves everything as it was, except for what the
system did before failing; a call that gives a value gives one of the declared type and leaves all
dicts as they were; and a call that has to wait has changed nothing yet that programs hold. -/
namespace ScriptHost

/-- What programs hold is as before: dicts and functions, and what their handles stand for. -/
structure World.Keeps (before after : World) : Prop where
  heap : after.heap = before.heap
  files : after.files = before.files
  sockets : after.sockets = before.sockets
  http : after.http = before.http

theorem World.Keeps.trans {first second third : World} (earlier : first.Keeps second)
    (later : second.Keeps third) : first.Keeps third :=
  ⟨later.heap.trans earlier.heap, later.files.trans earlier.files,
    later.sockets.trans earlier.sockets, later.http.trans earlier.http⟩

/-- A failure after which everything is as before; if the system failed, what programs hold is. -/
def Harmless (before : World) (error : BuiltinError) (after : World) : Prop :=
  after = before ∨ error.kind = .io ∧ before.Keeps after

theorem harmless (before : World) (error : BuiltinError) : Harmless before error before := .inl rfl

namespace Suspended

/-- Whether that what a call waits at is still open. -/
def Held : Suspended → World → Prop
  | .acceptStream server _, world => world.sockets.listeners.contains server = true
  | .readStream handle _ _, world => world.sockets.streams.contains handle = true
  | .acceptRequest server _, world | .readRequest server _ _ _, world =>
    world.http.listeners.contains server = true

/-- The type of what a waiting call gives. -/
def result : Suspended → TypeDesc
  | .acceptStream _ _ => .handle
  | .readStream _ _ _ => .bytes
  | .acceptRequest _ _ | .readRequest _ _ _ _ => Builtins.Http.requestShape

theorem Held.of_keeps {call : Suspended} {before after : World} (held : call.Held before)
    (kept : before.Keeps after) : call.Held after := by
  cases call <;> simpa only [Held, kept.sockets, kept.http] using held

end Suspended

/-- A value of a type, with all dicts as before. -/
def Gives (type : TypeDesc) (before : World) (value : Value) (after : World) : Prop :=
  before.heap.Extends after.heap ∧ after.heap.conforms type value = true

/-- A call for a value of a type that has changed nothing that programs hold. -/
def Waits (type : TypeDesc) (before : World) (call : Suspended) (after : World) : Prop :=
  before.Keeps after ∧ call.Held after ∧ call.result = type

def Builtin.Regular (builtin : Builtin) : Prop := ∀ env args before,
  Ends (builtin.run env args) before (Harmless before)
    (Progress.Meets (Gives builtin.signature.result before) (Waits builtin.signature.result before))

/-- A value that was computed from the arguments and what is there. -/
theorem Gives.unchanged {type : TypeDesc} {value : Value}
    (conforms : world.heap.conforms type value = true) : Gives type world value world :=
  ⟨.refl _, conforms⟩

section

variable {before : World} {fails : BuiltinError → World → Prop} {gives : β → World → Prop}

/-! Checks, which change nothing, and steps of a service, judged by why they fail. -/

theorem ends_tryCheck {check : Except BuiltinError α} {next : α → Action β}
    (failing : ∀ error, check = .error error → fails error before)
    (rest : ∀ result, check = .ok result → Ends (next result) before fails gives) :
    Ends (Action.ofExcept check >>= next) before fails gives := by
  rw [ends_bind]
  cases check with
  | ok result => exact rest result rfl
  | error error => exact failing error rfl

theorem ends_tryHostCheck {check : Except HostError α} {next : α → Action β}
    (failing : ∀ error, check = .error error → fails (.host error) before)
    (rest : ∀ result, check = .ok result → Ends (next result) before fails gives) :
    Ends (Action.ofHost check >>= next) before fails gives := by
  rw [ends_bind]
  cases check with
  | ok result => exact rest result rfl
  | error error => exact failing error rfl

theorem ends_tryNeed {present : Bool} {service : Service} {next : Unit → Action β}
    (failing : present = false → fails (.host (.missingService service)) before)
    (rest : present = true → Ends (next ()) before fails gives) :
    Ends (Action.need present service >>= next) before fails gives := by
  rw [ends_bind]
  cases present with
  | true => exact rest rfl
  | false => exact failing rfl

theorem ends_hostStep {use : World → Except HostError α × State} {putBack : World → State → World}
    {next : α → Action β}
    (failing : ∀ error state, use before = (.error error, state) →
      fails (.host error) (putBack before state))
    (rest : ∀ result state, use before = (.ok result, state) →
      Ends (next result) (putBack before state) fails gives) :
    Ends (Action.hostStep use putBack >>= next) before fails gives := by
  rw [Action.hostStep, bind_assoc, ends_bind, ends_get]
  rcases used : use before with ⟨outcome, state⟩
  dsimp only
  rw [bind_assoc, ends_bind, ends_set]
  apply ends_tryHostCheck
  · rintro error rfl
    exact failing error state used
  · rintro result rfl
    exact rest result state used

/-! Checks for which it does not matter why they fail. -/

theorem ends_check {check : Except BuiltinError α} {next : α → Action β}
    (spared : ∀ error, fails error before)
    (rest : ∀ result, check = .ok result → Ends (next result) before fails gives) :
    Ends (Action.ofExcept check >>= next) before fails gives :=
  ends_tryCheck (fun error _ => spared error) rest

theorem ends_hostCheck {check : Except HostError α} {next : α → Action β}
    (spared : ∀ error, fails error before)
    (rest : ∀ result, check = .ok result → Ends (next result) before fails gives) :
    Ends (Action.ofHost check >>= next) before fails gives :=
  ends_tryHostCheck (fun error _ => spared (.host error)) rest

theorem ends_need {present : Bool} {service : Service} {next : Unit → Action β}
    (spared : ∀ error, fails error before) (rest : Ends (next ()) before fails gives) :
    Ends (Action.need present service >>= next) before fails gives :=
  ends_tryNeed (fun _ => spared (.host (.missingService service))) fun _ => rest

end

end ScriptHost
