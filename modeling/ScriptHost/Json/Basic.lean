import ScriptHost.Number.Range

/-!
JSON documents. Objects keep their fields in order and with repetitions, since readers of objects
decide what to make of those; a text is kept apart from one that holds half a surrogate pair.
-/
namespace ScriptHost

/-- A number as written. -/
structure Numeral where
  negative : Bool
  /-- What stands before the point. -/
  whole : Nat
  /-- The digits behind the point. -/
  fraction : List Nat := []
  exponent : Option Int := none
  deriving DecidableEq, Repr

/-- A JSON document. -/
inductive Json where
  | null
  | bool (truth : Bool)
  | number (numeral : Numeral)
  /-- A text, or nothing where an escape leaves half a surrogate pair. -/
  | string (text : Option String)
  | array (items : List Json)
  | object (fields : List (Option String × Json))
  deriving Repr, Inhabited

namespace Numeral

/-- An integer that is not negative. -/
def ofNat (number : Nat) : Numeral := { negative := false, whole := number }

/-- The value, if written as an integer without a sign. -/
def toNat? (numeral : Numeral) : Option Nat :=
  if numeral.negative || !numeral.fraction.isEmpty || numeral.exponent.isSome then none
  else some numeral.whole

/-- Whether the value can be held as a double precision number. -/
def isInRange (numeral : Numeral) : Bool :=
  let digitOf := fun char : Char => char.toNat - '0'.toNat
  Number.isInQuickRange ((Nat.toDigits 10 numeral.whole).map digitOf) numeral.fraction
    (numeral.exponent.getD 0)

end Numeral

namespace Json

def ofString (text : String) : Json := .string (some text)

def ofNat (number : Nat) : Json := .number (.ofNat number)

def ofFields (fields : List (String × Json)) : Json :=
  .object (fields.map fun field => (some field.1, field.2))

mutual

/-- Whether a document nests at most so many containers and holds only whole texts and numbers in
range. -/
def isStrict (room : Nat) : Json → Bool
  | .null | .bool _ => true
  | .number numeral => numeral.isInRange
  | .string text => text.isSome
  | .array items => 0 < room && areStrict (room - 1) items
  | .object fields => 0 < room && areStrictFields (room - 1) fields

def areStrict (room : Nat) : List Json → Bool
  | [] => true
  | item :: rest => isStrict room item && areStrict room rest

def areStrictFields (room : Nat) : List (Option String × Json) → Bool
  | [] => true
  | field :: rest => isStrictField room field && areStrictFields room rest

def isStrictField (room : Nat) : Option String × Json → Bool
  | (key, item) => key.isSome && isStrict room item

end

end Json

end ScriptHost
