import ScriptHost.Json.Fields
import ScriptHost.Json.Printer
import ScriptHost.Json.Reader
import ScriptHost.TypeDesc

/-!
Types as JSON: an object with the name of the type and, where it has parts, those parts; or an
array of the two. What comes in front of the name that it belongs to has to be held, so it must be
well-formed throughout; a field that nobody asks for need not be. What is held may say some things in
shorter ways.
-/
namespace ScriptHost

/-- How many containers a document may nest. -/
def jsonDepth : Nat := 127

namespace TypeDesc

/-- The name of a type in exchanged data. -/
def code : TypeDesc → String
  | .any => "any"
  | .unit => "unit"
  | .int => "int"
  | .float => "float"
  | .string => "string"
  | .bool => "bool"
  | .bytes => "bytes"
  | .handle => "handle"
  | .list _ => "list"
  | .dict _ => "dict"
  | .optional _ => "optional"
  | .function _ _ => "function"
  | .error => "error"
  | .record _ => "record"
  | .shape _ => "shape"

/-- The types without parts. -/
def plain : List TypeDesc :=
  [.any, .unit, .int, .float, .string, .bool, .bytes, .handle, .error]

mutual

/-- The type as a document. -/
def toJson : TypeDesc → Json
  | .list item => withParts "list" (toJson item)
  | .dict item => withParts "dict" (toJson item)
  | .optional content => withParts "optional" (toJson content)
  | .function params result =>
    withParts "function"
      (Json.ofFields [("params", .array (toJsons params)), ("result", toJson result)])
  | .record name => withParts "record" (Json.ofString name)
  | .shape fields => withParts "shape" (.array (fieldsToJson fields))
  | type => Json.ofFields [("type", Json.ofString type.code)]
where
  withParts (name : String) (parts : Json) : Json :=
    Json.ofFields [("type", Json.ofString name), ("of", parts)]

def toJsons : List TypeDesc → List Json
  | [] => []
  | type :: rest => toJson type :: toJsons rest

def fieldsToJson : List (String × TypeDesc) → List Json
  | [] => []
  | field :: rest => fieldToJson field :: fieldsToJson rest

def fieldToJson : String × TypeDesc → Json
  | (name, type) => .array [Json.ofString name, toJson type]

end

/-- The names of all types in their order. -/
def codes : List String :=
  ["any", "unit", "int", "float", "string", "bool", "bytes", "handle", "list", "dict", "optional",
    "function", "error", "record", "shape"]

/-- The name of a type: a text, or an object whose one key it is and that holds null. An object may
stand for null where the document is held. -/
def name? (held : Bool) (room : Nat) : Json → Option String
  | .string text => text
  | .object [(key, .null)] => if 0 < room then key else none
  | .object [(key, .object [])] => if held then key else none
  | _ => none

/-- The name of a type in an array: a text, or its place in the order of names where the document is
held. -/
def itemName? (held : Bool) : Json → Option String
  | .string text => text
  | .number numeral => if held then numeral.toNat?.bind (codes[·]?) else none
  | _ => none

/-- What an object or array says about a type: the name, the parts, and whether those are held. -/
structure Named where
  name : String
  parts : Option Json
  held : Bool

/-- Name and parts of a type out of an object's fields. -/
def Named.ofFields? (held : Bool) (room : Nat) (fields : List (Option String × Json)) :
    Option Named := do
  if !Json.keysWhole fields then none
  let name ← (← Json.fieldOnce? "type" fields).bind (name? held room)
  let parts ← Json.fieldOnce? "of" fields
  let partsFirst := fields.find? (fun field => field.1 == some "type" || field.1 == some "of")
    |>.any (·.1 == some "of")
  if partsFirst && !parts.all (Json.isStrict room) then none
  return ⟨name, parts, held || partsFirst⟩

/-- A type without parts; where parts are given they must be null. -/
def ofPlainName? (name : String) (parts : Option Json) : Option TypeDesc :=
  match parts with
  | none | some .null => plain.find? (·.code == name)
  | _ => none

/-- Read a type from a document that may nest so many containers; `held` tells whether it stood in
front of the name that it belongs to. -/
def ofJson? : (held : Bool) → (room : Nat) → Json → Option TypeDesc
  | _, 0, _ => none
  | held, room + 1, json =>
    let named := match json with
      | .object fields => Named.ofFields? held room fields
      | .array [name, parts] => (itemName? held name).map fun name => ⟨name, some parts, held⟩
      | _ => none
    match named with
    | none => none
    | some ⟨name, parts, held⟩ =>
      match name, parts, room with
      | "list", some item, room => (ofJson? held room item).map .list
      | "dict", some item, room => (ofJson? held room item).map .dict
      | "optional", some content, room => (ofJson? held room content).map .optional
      | "function", some (.object fields), room + 1 =>
        if !Json.keysWhole fields then none
        else match Json.field? "params" fields, Json.field? "result" fields, room with
          | some (.array params), some result, room + 1 =>
            match params.mapM (ofJson? held room), ofJson? held (room + 1) result with
            | some params, some result => some (.function params result)
            | _, _ => none
          | _, _, _ => none
      | "record", some name, _ => name.asString?.map .record
      | "shape", some (.array items), room + 2 =>
        (items.mapM fun item : Json =>
          match item with
          | .array [name, type] =>
            match name.asString?, ofJson? held room type with
            | some name, some type => some (name, type)
            | _, _ => none
          | _ => none).map .shape
      | "shape", some (.array []), 1 => some (.shape [])
      | name, parts, _ => ofPlainName? name parts

/-- Read a type from JSON text. -/
def ofText? (text : String) : Option TypeDesc := (Json.ofText? text).bind (ofJson? false jsonDepth)

end TypeDesc

namespace Kind

/-- Read a kind from JSON text: its name, or an object whose one key it is. -/
def ofText? (text : String) : Option Kind :=
  (Json.ofText? text).bind fun json => (TypeDesc.name? false jsonDepth json).bind ofCode?

end Kind

end ScriptHost
