import ScriptHost.Json.Token

/-!
Reading a JSON text token by token, with a stack of the containers that are still open.
-/
namespace ScriptHost.Json

/-- A container that is still open, with what it holds so far in reverse. -/
inductive Frame where
  | array (items : List Json)
  | object (fields : List (Option String × Json))
  /-- An object behind a key. -/
  | field (fields : List (Option String × Json)) (key : Option String)
  deriving Repr

/-- What may come next. -/
inductive Expected where
  /-- A value. -/
  | value
  /-- A value, or the end of an array that has just begun. -/
  | firstItem
  /-- A key, or the end of an object that has just begun. -/
  | firstKey
  /-- A key behind a comma. -/
  | key
  | colon
  /-- A comma or the end of the container. -/
  | more
  /-- Nothing: the document is complete. -/
  | nothing (document : Json)
  deriving Repr

/-- Put a finished value into the innermost container. -/
def finish (value : Json) : List Frame → Option (Expected × List Frame)
  | [] => some (.nothing value, [])
  | .array items :: stack => some (.more, .array (value :: items) :: stack)
  | .field fields key :: stack => some (.more, .object ((key, value) :: fields) :: stack)
  | .object _ :: _ => none

/-- Begin a value at a token. -/
def beginValue (stack : List Frame) : Token → Option (Expected × List Frame)
  | .scalar value => finish value stack
  | .openBracket => some (.firstItem, .array [] :: stack)
  | .openBrace => some (.firstKey, .object [] :: stack)
  | _ => none

/-- Close the innermost container at a token. -/
def closeFrame : List Frame → Token → Option (Expected × List Frame)
  | .array items :: stack, .closeBracket => finish (.array items.reverse) stack
  | .object fields :: stack, .closeBrace => finish (.object fields.reverse) stack
  | _, _ => none

/-- Take a key at a token. -/
def takeKey : List Frame → Token → Option (Expected × List Frame)
  | .object fields :: stack, .scalar (.string key) => some (.colon, .field fields key :: stack)
  | _, _ => none

/-- One token further. -/
def step (expected : Expected) (stack : List Frame) (token : Token) :
    Option (Expected × List Frame) :=
  match expected, stack, token with
  | .value, stack, token => beginValue stack token
  | .firstItem, stack, .closeBracket => closeFrame stack .closeBracket
  | .firstItem, stack, token => beginValue stack token
  | .firstKey, stack, .closeBrace => closeFrame stack .closeBrace
  | .firstKey, stack, token => takeKey stack token
  | .key, stack, token => takeKey stack token
  | .colon, stack, .colon => some (.value, stack)
  | .colon, _, _ => none
  | .more, .array items :: stack, .comma => some (.value, .array items :: stack)
  | .more, .object fields :: stack, .comma => some (.key, .object fields :: stack)
  | .more, stack, token => closeFrame stack token
  | .nothing _, _, _ => none

/-- The document that tokens spell. -/
def ofTokens (expected : Expected) (stack : List Frame) : List Token → Option Json
  | [] =>
    match expected with
    | .nothing document => some document
    | _ => none
  | token :: rest =>
    match step expected stack token with
    | some (next, stack) => ofTokens next stack rest
    | none => none

/-- Read a document; nothing but blanks may stand around it. -/
def ofText? (text : String) : Option Json := (tokens text.toList).bind (ofTokens .value [])

end ScriptHost.Json
