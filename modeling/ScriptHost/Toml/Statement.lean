import ScriptHost.Toml.Quoted
import ScriptHost.Toml.Word

/-!
The lines of a TOML document: headers and assignments, each with the line it stands on. Readers give
what they have read and what follows it.
-/
namespace ScriptHost.Toml

/-- Spaces and tabs. -/
def isBlank (char : Char) : Bool := char == ' ' || char == '\t'

def skipBlanks (chars : List Char) : List Char := chars.dropWhile isBlank

/-- What follows a comment, if one begins here; it ends in front of the line end. -/
def skipComment : List Char → List Char
  | '#' :: rest => rest.dropWhile isPrintable
  | chars => chars

/-- The next line. Only blanks and a comment may be left on this one. -/
def nextLine? (chars : List Char) : Option (List Char) :=
  match skipComment (skipBlanks chars) with
  | [] => some []
  | '\n' :: rest => some rest
  | '\r' :: '\n' :: rest => some rest
  | _ => none

/-- What follows blanks, comments and line ends. -/
def skipSpace : (inComment : Bool) → List Char → List Char
  | _, [] => []
  | _, '\n' :: rest => skipSpace false rest
  | _, '\r' :: '\n' :: rest => skipSpace false rest
  | true, char :: rest => if isPrintable char then skipSpace true rest else char :: rest
  | false, '#' :: rest => skipSpace true rest
  | false, char :: rest => if isBlank char then skipSpace false rest else char :: rest

/-- Whether a character may stand in a key without quotes. -/
def isKeyChar (char : Char) : Bool := char.isAlphanum || char == '-' || char == '_'

/-- Read one part of a key. -/
def readKeyPart : List Char → Option (String × List Char)
  | '"' :: rest => (readBasic rest).map fun (text, behind) => (String.ofList text, behind)
  | '\'' :: rest => (readLiteral rest).map fun (text, behind) => (String.ofList text, behind)
  | chars =>
    let part := chars.takeWhile isKeyChar
    if part.isEmpty then none else some (String.ofList part, chars.dropWhile isKeyChar)

/-- How deep arrays and tables may nest, and how many parts a key may have. -/
def maxDepth : Nat := 79

/-- Read a key of at most so many parts, with the blanks around them. -/
def readKey : (room : Nat) → List Char → Option (Key × List Char)
  | 0, _ => none
  | room + 1, chars =>
    (readKeyPart (skipBlanks chars)).bind fun (part, behind) =>
      match skipBlanks behind with
      | '.' :: rest =>
        (readKey room rest).map fun (key, behind) => (⟨part :: key.path, key.last⟩, behind)
      | rest => some (⟨[], part⟩, rest)

/-- Whether a character ends a word. -/
def endsWord (char : Char) : Bool := " \t\r\n,]\x7d#".toList.contains char

/-- Read a value that is one word. A blank may stand between a date and a time. -/
def readWord (chars : List Char) : Option (Toml × List Char) :=
  let word := chars.takeWhile (!endsWord ·)
  let behind := chars.dropWhile (!endsWord ·)
  match isDate word, behind with
  | true, ' ' :: time =>
    if !time.head?.any (·.isDigit) then some (.dateTime, behind)
    else if isOffsetTime (time.takeWhile (!endsWord ·)) then
      some (.dateTime, time.dropWhile (!endsWord ·))
    else none
  | _, _ => (ofWord? word).map (·, behind)

/-- Read a value without parts. -/
def readScalar (chars : List Char) : Option (Toml × List Char) :=
  match chars with
  | '"' :: _ | '\'' :: _ =>
    (readQuoted chars).map fun (text, behind) => (.string (String.ofList text), behind)
  | _ => readWord chars

/-- Read the items of an array behind its opening bracket. No item is read without getting
further, so the comparison only serves to show that reading ends. -/
def readItems (read : List Char → Option (Toml × List Char)) (chars : List Char) :
    Option (List Toml × List Char) :=
  match skipSpace false chars with
  | ']' :: behind => some ([], behind)
  | start =>
    match read start with
    | none => none
    | some (item, rest) =>
      match skipSpace false rest with
      | ']' :: behind => some ([item], behind)
      | ',' :: behind =>
        if behind.length < chars.length then
          (readItems read behind).map fun (items, rest) => (item :: items, rest)
        else none
      | _ => none
  termination_by chars.length

/-- Read a key, an equals sign and a value. -/
def readAssignment (read : List Char → Option (Toml × List Char)) (chars : List Char) :
    Option ((Key × Toml) × List Char) :=
  (readKey maxDepth chars).bind fun (key, behind) =>
    match behind with
    | '=' :: rest => (read (skipBlanks rest)).map fun (value, behind) => ((key, value), behind)
    | _ => none

/-- Read assignments up to a closing brace and add them to a table. No comma stands in front of
the brace. -/
def readPairs (read : List Char → Option (Toml × List Char)) (here : Table) (chars : List Char) :
    Option (Table × List Char) :=
  match readAssignment read chars with
  | none => none
  | some ((key, value), rest) =>
    match here.assign? key value with
    | none => none
    | some more =>
      match skipBlanks rest with
      | '\x7d' :: behind => some (more, behind)
      | ',' :: behind => if behind.length < chars.length then readPairs read more behind else none
      | _ => none
  termination_by chars.length

/-- Read a table behind its opening brace. -/
def readBraces (read : List Char → Option (Toml × List Char)) (chars : List Char) :
    Option (Table × List Char) :=
  match skipBlanks chars with
  | '\x7d' :: behind => some (⟨.braces, []⟩, behind)
  | start => readPairs read ⟨.braces, []⟩ start

/-- Read a value in which arrays and tables nest no deeper than given. -/
def readValue : (room : Nat) → List Char → Option (Toml × List Char)
  | room + 1, '[' :: rest =>
    (readItems (readValue room) rest).map fun (items, behind) => (.array items, behind)
  | room + 1, '\x7b' :: rest =>
    (readBraces (readValue room) rest).map fun (here, behind) => (here.toToml, behind)
  | _, chars => readScalar chars

/-- What a line says. -/
inductive Statement where
  /-- What follows belongs to the table of a key. -/
  | header (key : Key)
  /-- What follows belongs to a further table of a key. -/
  | item (key : Key)
  | assignment (key : Key) (value : Toml)
  deriving Inhabited

/-- Read a statement. -/
def readStatement : List Char → Option (Statement × List Char)
  | '[' :: '[' :: rest =>
    (readKey maxDepth rest).bind fun (key, behind) =>
      match behind with
      | ']' :: ']' :: behind => some (.item key, behind)
      | _ => none
  | '[' :: rest =>
    (readKey maxDepth rest).bind fun (key, behind) =>
      match behind with
      | ']' :: behind => some (.header key, behind)
      | _ => none
  | chars =>
    (readAssignment (readValue maxDepth) chars).map fun ((key, value), behind) =>
      (.assignment key value, behind)

/-- All statements of a document. No line is read without getting further, so the comparisons
only serve to show that reading ends. -/
def readStatements (chars : List Char) : Option (List Statement) :=
  if chars.isEmpty then some []
  else match nextLine? chars with
    | some behind => if behind.length < chars.length then readStatements behind else none
    | none =>
      match readStatement (skipBlanks chars) with
      | none => none
      | some (statement, rest) =>
        match nextLine? rest with
        | none => none
        | some behind =>
          if behind.length < chars.length then (readStatements behind).map (statement :: ·)
          else none
  termination_by chars.length

end ScriptHost.Toml
