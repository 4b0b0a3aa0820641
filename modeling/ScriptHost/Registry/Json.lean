import ScriptHost.Registry
import ScriptHost.Signature.Json

/-!
All signatures of a registry as one JSON text, for tools that check programs without running them.
-/
namespace ScriptHost.Registry

/-- The signatures in the order of their numbers. -/
def toJson (registry : Registry) : Json := .array (registry.signatures.map Signature.toJson)

/-- The same as text over several lines. -/
def jsonText (registry : Registry) : String := registry.toJson.pretty

end ScriptHost.Registry
