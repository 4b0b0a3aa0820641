import ScriptHost.Kind

/-!
Types as signatures declare them. Only the kind of a type is checked at a call; the rest is for
readers of the signature.
-/
namespace ScriptHost

/-- A declared type. Handles travel as bytes. -/
inductive TypeDesc where
  | any
  | unit
  | int
  | float
  | string
  | bool
  | bytes
  | handle
  | list (item : TypeDesc)
  | dict (item : TypeDesc)
  | optional (content : TypeDesc)
  | function (params : List TypeDesc) (result : TypeDesc)
  | error
  /-- A record type that the program declares under a name. -/
  | record (name : String)
  /-- A record without a name, by its fields in order. -/
  | shape (fields : List (String × TypeDesc))
  deriving Repr, Inhabited

namespace TypeDesc

/-- The tag that values of the type carry. -/
def kind : TypeDesc → Kind
  | .any => .any
  | .unit => .unit
  | .int => .int
  | .float => .float
  | .string => .string
  | .bool => .bool
  | .bytes | .handle => .bytes
  | .list _ => .list
  | .dict _ => .dict
  | .optional _ => .optional
  | .function _ _ => .function
  | .error => .error
  | .record _ | .shape _ => .record

mutual

/-- The type as signatures print it. -/
def text : TypeDesc → String
  | .any => "any"
  | .unit => "unit"
  | .int => "int"
  | .float => "float"
  | .string => "string"
  | .bool => "bool"
  | .bytes => "bytes"
  | .handle => "handle"
  | .list item => "list<" ++ text item ++ ">"
  | .dict item => "dict<" ++ text item ++ ">"
  | .optional content => text content ++ "?"
  | .function params result => "fn(" ++ ", ".intercalate (texts params) ++ ") -> " ++ text result
  | .error => "error"
  | .record name => name
  | .shape fields => "\x7b" ++ ", ".intercalate (fieldTexts fields) ++ "\x7d"

def texts : List TypeDesc → List String
  | [] => []
  | type :: rest => text type :: texts rest

def fieldTexts : List (String × TypeDesc) → List String
  | [] => []
  | field :: rest => fieldText field :: fieldTexts rest

def fieldText : String × TypeDesc → String
  | (name, type) => name ++ ": " ++ text type

end

mutual

/-- Whether two types are written alike in every part. -/
def same : TypeDesc → TypeDesc → Bool
  | .any, .any | .unit, .unit | .int, .int | .float, .float | .string, .string | .bool, .bool
  | .bytes, .bytes | .handle, .handle | .error, .error => true
  | .list first, .list second | .dict first, .dict second
  | .optional first, .optional second => same first second
  | .function params result, .function params' result' => sameAll params params' && same result result'
  | .record name, .record name' => name == name'
  | .shape fields, .shape fields' => sameFields fields fields'
  | _, _ => false

def sameAll : List TypeDesc → List TypeDesc → Bool
  | [], [] => true
  | type :: rest, type' :: rest' => same type type' && sameAll rest rest'
  | _, _ => false

def sameFields : List (String × TypeDesc) → List (String × TypeDesc) → Bool
  | [], [] => true
  | field :: rest, field' :: rest' => sameField field field' && sameFields rest rest'
  | _, _ => false

def sameField : String × TypeDesc → String × TypeDesc → Bool
  | (name, type), (name', type') => name == name' && same type type'

end

mutual

theorem same_iff : (first second : TypeDesc) → (same first second = true ↔ first = second)
  | .list first, second | .dict first, second | .optional first, second => by
    cases second <;> simp [same, same_iff first]
  | .function params result, second => by
    cases second <;> simp [same, sameAll_iff params, same_iff result]
  | .shape fields, second => by cases second <;> simp [same, sameFields_iff fields]
  | .any, second | .unit, second | .int, second | .float, second | .string, second
  | .bool, second | .bytes, second | .handle, second | .error, second | .record _, second => by
    cases second <;> simp [same]

theorem sameAll_iff : (first second : List TypeDesc) → (sameAll first second = true ↔ first = second)
  | [], [] => by simp [sameAll]
  | [], _ :: _ => by simp [sameAll]
  | _ :: _, [] => by simp [sameAll]
  | type :: rest, type' :: rest' => by
    simp [sameAll, same_iff type type', sameAll_iff rest rest']

theorem sameFields_iff : (first second : List (String × TypeDesc)) →
    (sameFields first second = true ↔ first = second)
  | [], [] => by simp [sameFields]
  | [], _ :: _ => by simp [sameFields]
  | _ :: _, [] => by simp [sameFields]
  | field :: rest, field' :: rest' => by
    simp [sameFields, sameField_iff field field', sameFields_iff rest rest']

theorem sameField_iff : (first second : String × TypeDesc) →
    (sameField first second = true ↔ first = second)
  | (name, type), (name', type') => by
    simp [sameField, same_iff type type']

end

instance : DecidableEq TypeDesc := fun first second =>
  decidable_of_iff (same first second = true) (same_iff first second)

end TypeDesc

end ScriptHost
