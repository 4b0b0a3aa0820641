import ScriptHost.Signature
import ScriptHost.TypeDesc.Json

/-!
Signatures as JSON: an object with one field per part, or the parts in order in an array. Receiver
and method may be missing.
-/
namespace ScriptHost.Signature

/-- The signature as a document. -/
def toJson (signature : Signature) : Json :=
  Json.ofFields <|
    [("id", Json.ofNat signature.id.number.toNat),
      ("name", Json.ofString signature.name),
      ("arity", Json.ofNat signature.arity),
      ("param_names", .array (signature.paramNames.map Json.ofString)),
      ("param_types", .array (signature.paramTypes.map TypeDesc.toJson)),
      ("result", signature.result.toJson)] ++
    (signature.receiver.map fun type => ("receiver", type.toJson)).toList ++
    (signature.method.map fun name => ("method", Json.ofString name)).toList

/-- A part that may be null or missing. -/
def optional? (read : Json → Option α) : Option Json → Option (Option α)
  | none | some .null => some none
  | some json => (read json).map some

/-- The items of an array. -/
def items? (read : Json → Option α) : Json → Option (List α)
  | .array items => items.mapM read
  | _ => none

/-- Put the parts of a signature together; `room` counts containers within that of the parts. -/
def ofParts? (room : Nat) (id name arity paramNames paramTypes result : Json)
    (receiver method : Option Json) : Option Signature := do
  let id ← id.asNatBelow? UInt32.size
  let name ← name.asString?
  let arity ← arity.asNatBelow? UInt64.size
  let paramNames ← items? Json.asString? paramNames
  let paramTypes ← items? (TypeDesc.ofJson? false (room - 1)) paramTypes
  let result ← TypeDesc.ofJson? false room result
  let receiver ← optional? (TypeDesc.ofJson? false room) receiver
  let method ← optional? Json.asString? method
  return { id := ⟨id.toUInt32⟩, name, arity, paramNames, paramTypes, result, receiver, method }

/-- Read a signature from a document. -/
def ofJson? : Json → Option Signature
  | .object fields => do
    if !Json.keysWhole fields then none
    let receiver ← Json.fieldOnce? "receiver" fields
    let method ← Json.fieldOnce? "method" fields
    ofParts? (jsonDepth - 1) (← Json.field? "id" fields) (← Json.field? "name" fields)
      (← Json.field? "arity" fields) (← Json.field? "param_names" fields)
      (← Json.field? "param_types" fields) (← Json.field? "result" fields) receiver method
  | .array (id :: name :: arity :: paramNames :: paramTypes :: result :: rest) =>
    match rest with
    | [] => ofParts? (jsonDepth - 1) id name arity paramNames paramTypes result none none
    | [receiver] =>
      ofParts? (jsonDepth - 1) id name arity paramNames paramTypes result (some receiver) none
    | [receiver, method] =>
      ofParts? (jsonDepth - 1) id name arity paramNames paramTypes result (some receiver)
        (some method)
    | _ => none
  | _ => none

/-- Read a signature from JSON text. -/
def ofText? (text : String) : Option Signature := (Json.ofText? text).bind ofJson?

end ScriptHost.Signature
