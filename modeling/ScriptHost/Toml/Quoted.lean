import ScriptHost.Number.Count

/-!
Strings in their four styles: between single or triple marks, with escapes between double marks and
without between single ones. A written string has the first style that holds it without escapes.
-/
namespace ScriptHost.Toml

/-- Whether a character may stand in a line as it is. -/
def isPrintable (char : Char) : Bool :=
  char == '\t' || (0x20 ≤ char.toNat && char.toNat != 0x7F)

/-- What a one-letter escape stands for. -/
def escaped? : Char → Option Char
  | 'b' => some '\x08'
  | 't' => some '\t'
  | 'n' => some '\n'
  | 'f' => some '\x0c'
  | 'r' => some '\r'
  | '"' => some '"'
  | '\\' => some '\\'
  | _ => none

/-- The character whose code point hexadecimal digits give. -/
def ofHex? (digits : List Char) : Option Char :=
  (Number.digits? 16 digits).bind fun code =>
    if code.isValidChar then some (Char.ofNat code) else none

/-- A string that begins with a character, if both can be read. -/
def consChar (char : Option Char) (read : Option (List Char × List Char)) :
    Option (List Char × List Char) :=
  char.bind fun char => read.map fun (text, behind) => (char :: text, behind)

/-- Read a string between double marks, behind the first. -/
def readBasic : List Char → Option (List Char × List Char)
  | [] => none
  | '"' :: rest => some ([], rest)
  | '\\' :: 'u' :: a :: b :: c :: d :: rest => consChar (ofHex? [a, b, c, d]) (readBasic rest)
  | '\\' :: 'U' :: a :: b :: c :: d :: e :: f :: g :: h :: rest =>
    consChar (ofHex? [a, b, c, d, e, f, g, h]) (readBasic rest)
  | '\\' :: mark :: rest => consChar (escaped? mark) (readBasic rest)
  | char :: rest => if isPrintable char then consChar char (readBasic rest) else none

/-- Whether a line ends here, blanks aside. -/
def endsLine (chars : List Char) : Bool :=
  match chars.dropWhile (fun char => char == ' ' || char == '\t') with
  | '\n' :: _ | '\r' :: '\n' :: _ => true
  | _ => false

/-- Read a string between triple double marks, behind the first three. A backslash at the end of a
line takes all blanks and line ends behind it away; `skipping` holds while that lasts. One or two
marks in front of the closing three belong to the string. -/
def readLongBasic : (skipping : Bool) → List Char → Option (List Char × List Char)
  | _, [] => none
  | _, '"' :: '"' :: '"' :: '"' :: '"' :: rest => some (['"', '"'], rest)
  | _, '"' :: '"' :: '"' :: '"' :: rest => some (['"'], rest)
  | _, '"' :: '"' :: '"' :: rest => some ([], rest)
  | _, '\\' :: 'u' :: a :: b :: c :: d :: rest =>
    consChar (ofHex? [a, b, c, d]) (readLongBasic false rest)
  | _, '\\' :: 'U' :: a :: b :: c :: d :: e :: f :: g :: h :: rest =>
    consChar (ofHex? [a, b, c, d, e, f, g, h]) (readLongBasic false rest)
  | _, '\\' :: mark :: rest =>
    match escaped? mark with
    | some char => consChar char (readLongBasic false rest)
    | none => if endsLine (mark :: rest) then readLongBasic true (mark :: rest) else none
  | skipping, '\r' :: '\n' :: rest =>
    if skipping then readLongBasic true rest else consChar '\n' (readLongBasic false rest)
  | skipping, char :: rest =>
    if skipping && (char == '\n' || char == ' ' || char == '\t') then readLongBasic true rest
    else if isPrintable char || char == '\n' then consChar char (readLongBasic false rest)
    else none

/-- Read a string between single marks, behind the first. -/
def readLiteral : List Char → Option (List Char × List Char)
  | [] => none
  | '\'' :: rest => some ([], rest)
  | char :: rest => if isPrintable char then consChar char (readLiteral rest) else none

/-- Read a string between triple single marks, behind the first three. -/
def readLongLiteral : List Char → Option (List Char × List Char)
  | '\'' :: '\'' :: '\'' :: '\'' :: '\'' :: rest => some (['\'', '\''], rest)
  | '\'' :: '\'' :: '\'' :: '\'' :: rest => some (['\''], rest)
  | '\'' :: '\'' :: '\'' :: rest => some ([], rest)
  | '\r' :: '\n' :: rest => consChar '\n' (readLongLiteral rest)
  | char :: rest =>
    if isPrintable char || char == '\n' then consChar char (readLongLiteral rest) else none
  | [] => none

/-- A line end right behind three opening marks is no part of the string. -/
def skipLineEnd : List Char → List Char
  | '\r' :: '\n' :: rest => rest
  | '\n' :: rest => rest
  | chars => chars

/-- Read a string of any style. -/
def readQuoted : List Char → Option (List Char × List Char)
  | '"' :: '"' :: '"' :: rest => readLongBasic false (skipLineEnd rest)
  | '"' :: rest => readBasic rest
  | '\'' :: '\'' :: '\'' :: rest => readLongLiteral (skipLineEnd rest)
  | '\'' :: rest => readLiteral rest
  | _ => none

/-- An upper-case hexadecimal digit. -/
def hexDigit (number : Nat) : Char :=
  if number < 10 then Char.ofNat ('0'.toNat + number) else Char.ofNat ('A'.toNat + number - 10)

/-- A character between double marks, all on one line. -/
def escapeChar : Char → List Char
  | '\x08' => ['\\', 'b']
  | '\t' => ['\\', 't']
  | '\n' => ['\\', 'n']
  | '\x0c' => ['\\', 'f']
  | '\r' => ['\\', 'r']
  | '"' => ['\\', '"']
  | '\\' => ['\\', '\\']
  | char =>
    if isPrintable char then [char]
    else ['\\', 'u', '0', '0', hexDigit (char.toNat / 16), hexDigit (char.toNat % 16)]

/-- Write between triple double marks, where lines may end. So many marks in a row were just written
as they are; a third one is escaped. -/
def escapeLong (marks : Nat) : List Char → List Char
  | [] => []
  | '\n' :: rest => '\n' :: escapeLong 0 rest
  | '"' :: rest =>
    if marks < 2 then '"' :: escapeLong (marks + 1) rest else '\\' :: '"' :: escapeLong 0 rest
  | char :: rest => escapeChar char ++ escapeLong 0 rest

/-- The length of the longest row of a mark, where so many stand in front and the longest row so far
is known. -/
def longestRow (mark : Char) (current longest : Nat) : List Char → Nat
  | [] => max current longest
  | char :: rest =>
    if char = mark then longestRow mark (current + 1) longest rest
    else longestRow mark 0 (max current longest) rest

/-- How a string can be written. -/
inductive Quoting where
  /-- Between double marks, on one line. -/
  | basic
  /-- Between single marks, on one line and without escapes. -/
  | literal
  /-- Between triple double marks. -/
  | longBasic
  /-- Between triple single marks, without escapes. -/
  | longLiteral
  deriving DecidableEq, Repr

/-- The first style that needs no escapes. Where each needs some, it is double marks, three of them if
lines end in the string. -/
def Quoting.of (chars : List Char) : Quoting :=
  let hasControl := !chars.all fun char => isPrintable char || char == '\n'
  let hasBackslash := chars.contains '\\'
  let hasLines := chars.contains '\n'
  let doubles := longestRow '"' 0 0 chars
  let singles := longestRow '\'' 0 0 chars
  if hasControl then if hasLines then .longBasic else .basic
  else if !hasBackslash && doubles = 0 && !hasLines then .basic
  else if singles = 0 && !hasLines then .literal
  else if !hasBackslash && doubles ≤ 2 then .longBasic
  else if singles ≤ 2 then .longLiteral
  else if hasLines then .longBasic else .basic

/-- What stands behind three opening marks: a line end, where lines end in the string. -/
def longStart (chars : List Char) : List Char := if chars.contains '\n' then ['\n'] else []

/-- A string in quotes. -/
def quote (chars : List Char) : List Char :=
  match Quoting.of chars with
  | .basic => ['"'] ++ chars.flatMap escapeChar ++ ['"']
  | .literal => ['\''] ++ chars ++ ['\'']
  | .longBasic => ['"', '"', '"'] ++ longStart chars ++ escapeLong 0 chars ++ ['"', '"', '"']
  | .longLiteral => ['\'', '\'', '\''] ++ longStart chars ++ chars ++ ['\'', '\'', '\'']

end ScriptHost.Toml
