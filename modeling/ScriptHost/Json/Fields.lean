import ScriptHost.Json.Basic

/-!
Fields of JSON objects by name. A reader of an object refuses a repeated field of its own and
passes over the others.
-/
namespace ScriptHost.Json

/-- The field of a name, if there is one; nothing at all where the name is repeated. -/
def fieldOnce? (name : String) (fields : List (Option String × Json)) : Option (Option Json) :=
  match fields.filter (·.1 == some name) with
  | [] => some none
  | [field] => some (some field.2)
  | _ => none

/-- The field of a name that must be there once. -/
def field? (name : String) (fields : List (Option String × Json)) : Option Json :=
  (fieldOnce? name fields).join

/-- Whether every key is a whole text. -/
def keysWhole (fields : List (Option String × Json)) : Bool := fields.all (·.1.isSome)

def asString? : Json → Option String
  | .string text => text
  | _ => none

/-- A natural number written as an integer, below a bound. -/
def asNatBelow? (bound : Nat) : Json → Option Nat
  | .number numeral => numeral.toNat?.filter (· < bound)
  | _ => none

end ScriptHost.Json
