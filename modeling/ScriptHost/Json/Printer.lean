import ScriptHost.Json.Basic

/-!
JSON text: compact, or over several lines with two blanks per level. Control characters are
escaped, all others stand as they are.
-/
namespace ScriptHost.Json

/-- The hexadecimal digit of a number below sixteen. -/
def hexDigit (number : Nat) : Char :=
  if number < 10 then Char.ofNat ('0'.toNat + number) else Char.ofNat ('a'.toNat + number - 10)

/-- A character inside quotes. -/
def quoteChar : Char → List Char
  | '"' => ['\\', '"']
  | '\\' => ['\\', '\\']
  | '\x08' => ['\\', 'b']
  | '\x0c' => ['\\', 'f']
  | '\n' => ['\\', 'n']
  | '\r' => ['\\', 'r']
  | '\t' => ['\\', 't']
  | char =>
    if char.toNat < 0x20 then
      ['\\', 'u', '0', '0', hexDigit (char.toNat / 16), hexDigit (char.toNat % 16)]
    else [char]

/-- A text in quotes. -/
def quote (text : String) : String :=
  "\"" ++ String.ofList (text.toList.flatMap quoteChar) ++ "\""

/-- A number. -/
def numeralText (numeral : Numeral) : String :=
  let fraction := "".intercalate (numeral.fraction.map toString)
  (if numeral.negative then "-" else "") ++ toString numeral.whole ++
    (if numeral.fraction.isEmpty then "" else "." ++ fraction) ++
    match numeral.exponent with
    | none => ""
    | some exponent => s!"e{exponent}"

/-- A document without parts. -/
def scalarText : Json → String
  | .bool truth => if truth then "true" else "false"
  | .number numeral => numeralText numeral
  | .string text => quote (text.getD "")
  | _ => "null"

mutual

/-- The document on one line without blanks. -/
def compact : Json → String
  | .array items => "[" ++ ",".intercalate (compactAll items) ++ "]"
  | .object fields => "\x7b" ++ ",".intercalate (compactFields fields) ++ "\x7d"
  | scalar => scalarText scalar

def compactAll : List Json → List String
  | [] => []
  | item :: rest => compact item :: compactAll rest

def compactFields : List (Option String × Json) → List String
  | [] => []
  | field :: rest => compactField field :: compactFields rest

def compactField : Option String × Json → String
  | (key, item) => quote (key.getD "") ++ ":" ++ compact item

end

/-- Lines of a container between its marks; an empty one stays on one line. -/
def bracketed (indent : String) (first last : String) (lines : List String) : String :=
  if lines.isEmpty then first ++ last
  else first ++ "\n" ++ ",\n".intercalate (lines.map fun line => indent ++ "  " ++ line) ++ "\n" ++
    indent ++ last

mutual

/-- The document over several lines, behind the given indentation. -/
def prettyAt (indent : String) : Json → String
  | .array items => bracketed indent "[" "]" (prettyAll (indent ++ "  ") items)
  | .object fields => bracketed indent "\x7b" "\x7d" (prettyFields (indent ++ "  ") fields)
  | scalar => scalarText scalar

def prettyAll (indent : String) : List Json → List String
  | [] => []
  | item :: rest => prettyAt indent item :: prettyAll indent rest

def prettyFields (indent : String) : List (Option String × Json) → List String
  | [] => []
  | field :: rest => prettyField indent field :: prettyFields indent rest

def prettyField (indent : String) : Option String × Json → String
  | (key, item) => quote (key.getD "") ++ ": " ++ prettyAt indent item

end

/-- The document over several lines. -/
def pretty (json : Json) : String := prettyAt "" json

end ScriptHost.Json
