import ScriptHost.Text.CaseTables

/-!
Full case conversion: simple mappings, mappings to several characters, and the small sigma that
ends a word.
-/
namespace ScriptHost.Text

/-- Whether a code point lies in one of the ranges. -/
def inRanges (ranges : List (Nat × Nat)) (code : Nat) : Bool :=
  ranges.any fun range => range.1 ≤ code && code ≤ range.2

def isCased (char : Char) : Bool := inRanges casedRanges char.toNat

def isCaseIgnorable (char : Char) : Bool := inRanges caseIgnorableRanges char.toNat

/-- Whether a run maps the code point. -/
def CaseRun.covers (run : CaseRun) (code : Nat) : Bool :=
  run.first ≤ code && code ≤ run.last && (code - run.first) % run.step == 0

/-- The simple mapping of a code point, itself if no run covers it. -/
def mapSimple (runs : List CaseRun) (code : Nat) : Nat :=
  match runs.find? (·.covers code) with
  | some run => (code + run.offset).toNat
  | none => code

/-- The full mapping of one character. -/
def mapCase (expansions : List (Nat × List Nat)) (runs : List CaseRun) (char : Char) : List Char :=
  match expansions.lookup char.toNat with
  | some codes => codes.map Char.ofNat
  | none => [Char.ofNat (mapSimple runs char.toNat)]

def upperChar (char : Char) : List Char :=
  if char.toNat < 0x80 then [char.toUpper] else mapCase upperExpansions upperRuns char

def lowerChar (char : Char) : List Char :=
  if char.toNat < 0x80 then [char.toLower] else mapCase lowerExpansions lowerRuns char

/-- Whether the first character that is not case-ignorable has case. -/
def meetsCased (chars : List Char) : Bool :=
  match chars.dropWhile isCaseIgnorable with
  | char :: _ => isCased char
  | [] => false

/-- Lower case of the rest of a text; `before` is what precedes it, nearest first. A capital
sigma after a cased letter and before none ends its word. -/
def lowerChars (before : List Char) : List Char → List Char
  | [] => []
  | char :: rest =>
    let mapped :=
      if char = 'Σ' then
        [if meetsCased before && !meetsCased rest then 'ς' else 'σ']
      else lowerChar char
    mapped ++ lowerChars (char :: before) rest

/-- The text in upper case. -/
def upper (text : String) : String := String.ofList (text.toList.flatMap upperChar)

/-- The text in lower case. -/
def lower (text : String) : String := String.ofList (lowerChars [] text.toList)

end ScriptHost.Text
