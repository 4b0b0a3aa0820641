import ScriptHost.Number.Count
import ScriptHost.Text.Split

/-!
Tables of characters as runs of code points, and their written form: words between blanks, each with
a first code point, a last one behind a hyphen, a step behind a slash, and behind an equals sign what
the run stands for, its parts between plus signs. All numbers but the step have base sixteen.
-/
namespace ScriptHost.Text

/-- Every `step`-th code point from `first` to `last`, and what the first one stands for. -/
structure CodeRun where
  first : Nat
  last : Nat
  step : Nat
  target : List Nat
  deriving DecidableEq, Repr, Inhabited

namespace CodeRun

/-- Whether a code point belongs to the run. -/
def covers (run : CodeRun) (code : Nat) : Bool :=
  run.first ≤ code && code ≤ run.last && (code - run.first) % run.step == 0

/-- What a code point of the run stands for, if the target moves along with the run. -/
def image (run : CodeRun) (code : Nat) : List Nat :=
  match run.target with
  | [] => []
  | head :: rest => (head + (code - run.first)) :: rest

/-- The code point of the run that stands for two others. -/
def source? (run : CodeRun) (first second : Nat) : Option Nat :=
  match run.target with
  | [head, next] =>
    let code := run.first + (first - head)
    if head ≤ first ∧ next = second ∧ run.covers code then some code else none
  | _ => none

/-- A number in base sixteen. -/
def hexOf (digits : List Char) : Nat := (Number.digits? 16 digits).getD 0

/-- What stands before a mark and what behind it, if the mark is there. -/
def atMark (mark : Char) (chars : List Char) : List Char × Option (List Char) :=
  (chars.takeWhile (· != mark), (chars.dropWhile (· != mark)).tail?)

/-- Read one run. -/
def ofWord (word : List Char) : CodeRun :=
  let (codes, target) := atMark '=' word
  let (codes, step) := atMark '/' codes
  let (first, last) := atMark '-' codes
  { first := hexOf first
    last := hexOf (last.getD first)
    step := (step.map hexOf).getD 1
    target := (target.map fun target => (splitOn ['+'] target).map hexOf).getD [] }

/-- Put a character in front of words; a blank begins another word. -/
def consChar (char : Char) : List (List Char) → List (List Char)
  | [] => if char.isWhitespace then [] else [[char]]
  | word :: rest =>
    if char.isWhitespace then if word.isEmpty then word :: rest else [] :: word :: rest
    else (char :: word) :: rest

end CodeRun

/-- A set of characters, or an assignment to characters, by runs. -/
structure CodeTable where
  runs : List CodeRun
  deriving Inhabited

namespace CodeTable

/-- Read a table. -/
def ofText (text : String) : CodeTable :=
  ⟨((text.toList.foldr CodeRun.consChar []).filter (!·.isEmpty)).map CodeRun.ofWord⟩

/-- The run of a character. -/
def run? (table : CodeTable) (char : Char) : Option CodeRun :=
  table.runs.find? (·.covers char.toNat)

/-- Whether some run covers a character. -/
def contains (table : CodeTable) (char : Char) : Bool := (table.run? char).isSome

/-- What a character stands for, where the targets move along with their runs. -/
def image? (table : CodeTable) (char : Char) : Option (List Char) :=
  (table.run? char).map fun run => (run.image char.toNat).map Char.ofNat

/-- What a character is given, where all of a run are given the same. -/
def value? (table : CodeTable) (char : Char) : Option Nat :=
  (table.run? char).bind (·.target.head?)

/-- The character that stands for two others. -/
def source? (table : CodeTable) (first second : Char) : Option Char :=
  (table.runs.findSome? (·.source? first.toNat second.toNat)).map Char.ofNat

end CodeTable

end ScriptHost.Text
