import ScriptHost.Builtins.Waiting
import ScriptHost.Proofs.Action.Outcome
import ScriptHost.Proofs.Registry.Indexes

/-! Calls through each of the ways to name a builtin, from their beginning until they give a result
or fail. A call that has to wait is advanced again once the world has changed around it. -/
namespace ScriptHost

/-- What a program can name in a call. -/
inductive Callee where
  | id (id : BuiltinId)
  | name (name : String)
  | method (name : String)

namespace Registry

variable {registry : Registry} {callee : Callee} {args : List Value} {builtin : Builtin}
  {env : Environment}

/-- The builtin that is called. -/
def target? (registry : Registry) (args : List Value) : Callee → Option Builtin
  | .id id => registry.findById? id
  | .name name => registry.findByName? name
  | .method name => args.head?.bind fun receiver => registry.findMethod? receiver.kind name

/-- Call what a program names. -/
def callNamed (registry : Registry) (env : Environment) (args : List Value) :
    Callee → Action Progress
  | .id id => registry.call id env args
  | .name name => registry.callByName name env args
  | .method name => registry.callMethod name env args

theorem callNamed_of_target (found : registry.target? args callee = some builtin) :
    registry.callNamed env args callee = builtin.call env args := by
  cases callee with
  | id id => rw [callNamed, call, show registry.findById? id = some builtin from found]
  | name name =>
    rw [callNamed, callByName, show registry.findByName? name = some builtin from found]
  | method name =>
    cases args with
    | nil => cases found
    | cons receiver rest =>
      rw [callNamed, callMethod,
        show registry.findMethod? receiver.kind name = some builtin from found]

/-- A call that names no builtin is the fault of the caller. -/
theorem callNamed_of_no_target (env : Environment)
    (missing : registry.target? args callee = none) :
    ∃ error, registry.callNamed env args callee = throw error ∧ error.kind = .contract := by
  cases callee with
  | id id =>
    rw [callNamed, call, show registry.findById? id = none from missing]
    exact ⟨_, rfl, rfl⟩
  | name name =>
    rw [callNamed, callByName, show registry.findByName? name = none from missing]
    exact ⟨_, rfl, rfl⟩
  | method name =>
    cases args with
    | nil => exact ⟨_, rfl, rfl⟩
    | cons receiver rest =>
      rw [callNamed, callMethod, show registry.findMethod? receiver.kind name = none from missing]
      exact ⟨_, rfl, rfl⟩

/-- What is called is registered. -/
theorem mem_of_target (holds : Holds registry builtins)
    (found : registry.target? args callee = some builtin) : builtin ∈ builtins := by
  have registered : ∃ id, registry.findById? id = some builtin := by
    cases callee with
    | id id => exact ⟨id, found⟩
    | name name =>
      obtain ⟨id, _, found⟩ := Option.bind_eq_some_iff.mp found
      exact ⟨id, found⟩
    | method name =>
      obtain ⟨_, _, found⟩ := Option.bind_eq_some_iff.mp found
      obtain ⟨id, _, found⟩ := Option.bind_eq_some_iff.mp found
      exact ⟨id, found⟩
  obtain ⟨id, found⟩ := registered
  exact ((holds.byId id builtin).mp found).1

/-! Each registered builtin can be called. -/

theorem target?_name (holds : Holds registry builtins) (member : builtin ∈ builtins)
    (isFunction : methodKey? builtin.signature = none) :
    registry.target? args (.name builtin.signature.name) = some builtin := by
  have key := nameKey?_eq_some_iff.mpr ⟨isFunction, rfl⟩
  have named := (holds.byName _ _).mpr ⟨builtin, member, rfl, key⟩
  rw [target?, findByName?, named]
  exact (holds.byId _ _).mpr ⟨member, rfl⟩

theorem target?_method (holds : Holds registry builtins) (member : builtin ∈ builtins)
    (isMethod : methodKey? builtin.signature = some ⟨receiver.kind, method⟩) :
    registry.target? (receiver :: rest) (.method method) = some builtin := by
  have named := (holds.byMethod _ _).mpr ⟨builtin, member, rfl, isMethod⟩
  rw [target?, List.head?_cons, Option.bind_some, findMethod?, named]
  exact (holds.byId _ _).mpr ⟨member, rfl⟩

end Registry

section

variable {meanwhile : World → World → Prop} {env : Environment}

/-- How a call comes to its end. While it waits, the world changes around it in certain ways. -/
inductive Returns (meanwhile : World → World → Prop) (env : Environment) :
    Action Progress → World → Except BuiltinError Value → World → Prop where
  | fails (ran : action.runIn before = (.error error, after)) :
      Returns meanwhile env action before (.error error) after
  | finishes (ran : action.runIn before = (.ok (.finished value), after)) :
      Returns meanwhile env action before (.ok value) after
  | waits (ran : action.runIn before = (.ok (.suspended call), between))
      (moved : meanwhile between later)
      (advanced : Returns meanwhile env (call.advance env) later result after) :
      Returns meanwhile env action before result after

/-- What holds after an attempt: one thing of the value that it gives, another if it has to wait. -/
def Progress.Meets (gives : Value → World → Prop) (waits : Suspended → World → Prop) :
    Progress → World → Prop
  | .finished value => gives value
  | .suspended call => waits call

theorem Progress.Meets.imp {gives gives' : Value → World → Prop}
    {waits waits' : Suspended → World → Prop}
    (giving : ∀ value after, gives value after → gives' value after)
    (waiting : ∀ call after, waits call after → waits' call after) :
    (progress : Progress) → (after : World) → progress.Meets gives waits after →
      progress.Meets gives' waits' after
  | .finished value, after => giving value after
  | .suspended call, after => waiting call after

/-- What holds in the end: one thing of an error, another of a value. -/
def Settled (fails : BuiltinError → World → Prop) (gives : Value → World → Prop) :
    Except BuiltinError Value → World → Prop
  | .error error => fails error
  | .ok value => gives value

/-- What the first attempt brings about and every later one keeps, however often the call has to
wait, holds in the end. -/
theorem Returns.meets (fails : BuiltinError → World → Prop) (gives : Value → World → Prop)
    (waits : Suspended → World → Prop)
    (returned : Returns meanwhile env action before result after)
    (begins : Ends action before fails (Progress.Meets gives waits))
    (goesOn : ∀ call between later, waits call between → meanwhile between later →
      Ends (call.advance env) later fails (Progress.Meets gives waits)) :
    Settled fails gives result after := by
  induction returned with
  | fails ran => exact begins.of_error ran
  | finishes ran => exact begins.of_ok ran
  | waits ran moved _ ih => exact ih (goesOn _ _ _ (begins.of_ok ran) moved)

end

end ScriptHost
