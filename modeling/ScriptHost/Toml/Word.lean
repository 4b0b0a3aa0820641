import ScriptHost.Number.Count
import ScriptHost.Number.Range
import ScriptHost.Toml.Basic

/-!
Values that are written without quotes or brackets: truth values, integers, floats and dates. Each
is one word, and a word is a value only as a whole.
-/
namespace ScriptHost.Toml

/-- The digits of a number in which single underscores may stand between two digits. -/
def ungroup? (base : Nat) : List Char → Option (List Char)
  | [] => none
  | [char] => if (Number.digit? base char).isSome then some [char] else none
  | char :: '_' :: rest =>
    if (Number.digit? base char).isSome then (ungroup? base rest).map (char :: ·) else none
  | char :: rest =>
    if (Number.digit? base char).isSome then (ungroup? base rest).map (char :: ·) else none

/-- Digits before a point: no zero stands in front of others. -/
def wholeDigits? (chars : List Char) : Option (List Char) :=
  match ungroup? 10 chars with
  | some ('0' :: _ :: _) => none
  | digits => digits

/-- An integer within the range of 64 bits. -/
def ofInt? (number : Int) : Option Toml :=
  if -Int.pow 2 63 ≤ number ∧ number < Int.pow 2 63 then some (.integer number) else none

/-- An integer in a base other than ten. -/
def ofBase? (base : Nat) (chars : List Char) : Option Toml := do
  let digits ← ungroup? base chars
  ofInt? (← Number.digits? base digits)

/-- Whether a character ends the digits before a point or exponent. -/
def endsDigits (char : Char) : Bool := char == '.' || char == 'e' || char == 'E'

/-- The exponent behind its mark. -/
def exponent? (chars : List Char) : Option Int :=
  match chars with
  | '-' :: rest => do return -(← Number.digits? 10 (← ungroup? 10 rest) : Nat)
  | '+' :: rest => do return (← Number.digits? 10 (← ungroup? 10 rest) : Nat)
  | rest => do return (← Number.digits? 10 (← ungroup? 10 rest) : Nat)

/-- A float by its parts. One that is too large is refused, unless it is negative. -/
def ofFloat? (negative : Bool) (whole fraction : List Char) (exponent : Int) : Option Toml := do
  let digits ← Number.digits? 10 (whole ++ fraction)
  if negative || Number.isInRange digits (exponent - fraction.length) then some .float else none

/-- An integer or float behind its sign. -/
def ofUnsigned? (negative : Bool) (chars : List Char) : Option Toml := do
  let whole ← wholeDigits? (chars.takeWhile (!endsDigits ·))
  match chars.dropWhile (!endsDigits ·) with
  | [] =>
    let size ← Number.digits? 10 whole
    ofInt? (if negative then -(size : Int) else size)
  | '.' :: rest =>
    let fraction ← ungroup? 10 (rest.takeWhile (!endsDigits ·))
    match rest.dropWhile (!endsDigits ·) with
    | [] => ofFloat? negative whole fraction 0
    | '.' :: _ => none
    | _ :: behind => ofFloat? negative whole fraction (← exponent? behind)
  | _ :: behind => ofFloat? negative whole [] (← exponent? behind)

/-- A number in decimal, or one of the words for what no digits can tell. -/
def ofDecimal? (negative : Bool) (chars : List Char) : Option Toml :=
  if chars = "inf".toList ∨ chars = "nan".toList then some .float else ofUnsigned? negative chars

/-- Two digits of a date or time within bounds, and the rest. -/
def pair? (low high : Nat) : List Char → Option (Nat × List Char)
  | first :: second :: rest =>
    match Number.digits? 10 [first, second] with
    | some number => if low ≤ number ∧ number ≤ high then some (number, rest) else none
    | none => none
  | _ => none

/-- The number of days of a month. -/
def daysOf (year month : Nat) : Nat :=
  let isLeap := year % 4 == 0 && (year % 100 != 0 || year % 400 == 0)
  if month = 2 then if isLeap then 29 else 28
  else if [4, 6, 9, 11].contains month then 30
  else 31

/-- What follows a mark. -/
def behind? (mark : Char) : List Char → Option (List Char)
  | char :: rest => if char = mark then some rest else none
  | [] => none

/-- What follows a date. -/
def behindDate? (chars : List Char) : Option (List Char) := do
  let (century, rest) ← pair? 0 99 chars
  let (year, rest) ← pair? 0 99 rest
  let (month, rest) ← pair? 1 12 (← behind? '-' rest)
  let (day, rest) ← pair? 1 31 (← behind? '-' rest)
  if day ≤ daysOf (century * 100 + year) month then some rest else none

/-- What follows a fraction of a second, if there is one. -/
def behindFraction? : List Char → Option (List Char)
  | '.' :: rest =>
    if (rest.takeWhile (·.isDigit)).isEmpty then none else some (rest.dropWhile (·.isDigit))
  | rest => some rest

/-- What follows a time of the day. -/
def behindTime? (chars : List Char) : Option (List Char) := do
  let (_, rest) ← pair? 0 23 chars
  let (_, rest) ← pair? 0 59 (← behind? ':' rest)
  let (_, rest) ← pair? 0 60 (← behind? ':' rest)
  behindFraction? rest

/-- What follows hours and minutes. -/
def behindHours? (chars : List Char) : Option (List Char) := do
  let (_, rest) ← pair? 0 23 chars
  let (_, rest) ← pair? 0 59 (← behind? ':' rest)
  return rest

/-- Whether a word is a distance from universal time, or nothing. -/
def isOffset : List Char → Bool
  | [] => true
  | [mark] => mark == 'Z' || mark == 'z'
  | sign :: rest => (sign == '+' || sign == '-') && behindHours? rest == some []

/-- Whether a word is a time of the day, with or without an offset. -/
def isOffsetTime (word : List Char) : Bool := (behindTime? word).any isOffset

/-- Whether a word is a date without a time. -/
def isDate (word : List Char) : Bool := behindDate? word == some []

/-- Whether a word is a date, a time, or both. -/
def isDateTime (word : List Char) : Bool :=
  behindTime? word == some [] ||
    match behindDate? word with
    | some [] => true
    | some (mark :: time) => (mark == 'T' || mark == 't') && isOffsetTime time
    | none => false

/-- The value that a word stands for. -/
def ofWord? (word : List Char) : Option Toml :=
  if word = "true".toList then some (.boolean true)
  else if word = "false".toList then some (.boolean false)
  else if isDateTime word then some .dateTime
  else match word with
    | '0' :: 'x' :: rest => ofBase? 16 rest
    | '0' :: 'o' :: rest => ofBase? 8 rest
    | '0' :: 'b' :: rest => ofBase? 2 rest
    | '-' :: rest => ofDecimal? true rest
    | '+' :: rest => ofDecimal? false rest
    | rest => ofDecimal? false rest

end ScriptHost.Toml
