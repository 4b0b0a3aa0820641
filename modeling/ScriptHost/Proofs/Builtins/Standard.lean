import ScriptHost.Builtins.Standard
import ScriptHost.Proofs.Builtins.Data
import ScriptHost.Proofs.Builtins.Services

/-! The standard registry holds all standard builtins, and all but five of them are regular. -/
namespace ScriptHost

open Builtins

theorem accepted_standardBuiltins :
    Registry.empty.accepted standardBuiltins = standardBuiltins := by
  have size : standardRegistry.size = standardBuiltins.length := by decide +kernel
  refine (Registry.accepted_sublist _ _).eq_of_length ?_
  rw [← size, ← (Registry.holds_registerAll standardBuiltins).listed.length_eq]
  exact List.length_map _

/-- No standard builtin is refused. -/
theorem holds_standardRegistry : Registry.Holds standardRegistry standardBuiltins := by
  have holds := Registry.holds_registerAll standardBuiltins
  rwa [accepted_standardBuiltins] at holds

/-- The builtins that are not regular: one may lose a request to a failure, two change dicts, and
two call functions of the program. -/
inductive Special : Builtin → Prop where
  | respond : Special Http.respond
  | set : Special Dicts.set
  | remove : Special Dicts.remove
  | map : Special Lists.map
  | filter : Special Lists.filter

theorem regular_of_standard (member : builtin ∈ standardBuiltins)
    (notSpecial : ¬ Special builtin) : builtin.Regular := by
  simp only [standardBuiltins, List.mem_append] at member
  rcases member with (((((((((files | sockets) | http) | time) | console) | introspection) |
    strings) | bytes) | lists) | dicts) | optionals
  · exact Files.regular_all builtin files
  · exact Sockets.regular_all builtin sockets
  · exact Http.regular_of_mem http fun same => notSpecial (same ▸ .respond)
  · exact Time.regular_all builtin time
  · exact Console.regular_all builtin console
  · exact Introspection.regular_all builtin introspection
  · exact Strings.regular_all builtin strings
  · exact ByteStrings.regular_all builtin bytes
  · exact Lists.regular_of_mem lists (fun same => notSpecial (same ▸ .map))
      fun same => notSpecial (same ▸ .filter)
  · exact Dicts.regular_of_mem dicts (fun same => notSpecial (same ▸ .set))
      fun same => notSpecial (same ▸ .remove)
  · exact Optionals.regular_all builtin optionals

/-! A standard builtin that is called with arguments that it accepts runs on them. -/

theorem callMethod_standard {builtin : Builtin} {receiver : Value} {rest : List Value}
    {method : String} (member : builtin ∈ standardBuiltins)
    (isMethod : Registry.methodKey? builtin.signature = some ⟨receiver.kind, method⟩)
    (accepted : builtin.signature.checkArgs (receiver :: rest) = .ok ()) (env : Environment) :
    standardRegistry.callMethod method env (receiver :: rest) =
      builtin.run env (receiver :: rest) := by
  have found : standardRegistry.target? (receiver :: rest) (.method method) = some builtin :=
    Registry.target?_method holds_standardRegistry member isMethod
  refine (Registry.callNamed_of_target found).trans ?_
  rw [Builtin.call, accepted]
  rfl

theorem callByName_standard {builtin : Builtin} {args : List Value}
    (member : builtin ∈ standardBuiltins)
    (isFunction : Registry.methodKey? builtin.signature = none)
    (accepted : builtin.signature.checkArgs args = .ok ()) (env : Environment) :
    standardRegistry.callByName builtin.signature.name env args = builtin.run env args := by
  have found : standardRegistry.target? args (.name builtin.signature.name) = some builtin :=
    Registry.target?_name holds_standardRegistry member isFunction
  refine (Registry.callNamed_of_target found).trans ?_
  rw [Builtin.call, accepted]
  rfl

end ScriptHost
