import ScriptHost.Args
import ScriptHost.Registry

/-!
Builtins on the clock.
-/
namespace ScriptHost.Builtins.Time

def now : Builtin where
  signature := Signature.function ⟨400⟩ "time.now"
    |>.returns .int
  run _ _ := return .finished (.ofNat (← get).clock)

def sleep : Builtin where
  signature := Signature.function ⟨401⟩ "time.sleep"
    |>.param "ms" .int
  run _ args := do
    let duration ← Action.ofExcept (Args.int args 0)
    if duration < 0 then throw (.invalidArgument (.negativeSleep duration))
    modify fun world => { world with clock := world.clock + duration.toNat }
    return .finished .unit

/-- The builtins on the clock in the order of their numbers. -/
def all : List Builtin := [now, sleep]

end ScriptHost.Builtins.Time
