import ScriptHost.Number.Count
import ScriptHost.Text.Split

/-!
Internet addresses of version four and six: the many ways to write one, and the one way in which they
are written here.
-/
namespace ScriptHost.Address

/-- A part of a version four address, in base ten, eight or sixteen by its first digits. -/
def ipv4Part? (chars : List Char) : Option Nat :=
  match chars with
  | '0' :: 'x' :: rest | '0' :: 'X' :: rest =>
    if rest.isEmpty then some 0 else Number.digits? 16 rest
  | '0' :: rest => if rest.isEmpty then some 0 else Number.digits? 8 rest
  | chars => Number.digits? 10 chars

/-- The version four address of up to four parts; the last one fills all the places left. -/
def ofParts? (parts : List (List Char)) : Option Nat := do
  let numbers ← parts.mapM ipv4Part?
  if 4 < numbers.length then none
  let last ← numbers.getLast?
  let front := numbers.dropLast
  if front.any (255 < ·) || Nat.pow 256 (4 - front.length) ≤ last then none
  let placed := front.zipIdx.foldl (fun sum (number, index) => sum + number * Nat.pow 256 (3 - index)) 0
  return placed + last

/-- A version four address with nothing behind it. -/
def ipv4? (chars : List Char) : Option Nat := ofParts? (Text.splitOn ['.'] chars)

/-- The parts of a name between its dots, without an empty one at the end. -/
def nameParts (name : List Char) : List (List Char) :=
  let parts := Text.splitOn ['.'] name
  if parts.getLast? = some [] && 1 < parts.length then parts.dropLast else parts

/-- Whether a name must be a version four address: its last part is a number. -/
def endsInNumber (name : List Char) : Bool :=
  match (nameParts name).getLast? with
  | some part => (!part.isEmpty && part.all Char.isDigit) ||
      ((part.take 2 == ['0', 'x'] || part.take 2 == ['0', 'X']) && (ipv4Part? part).isSome)
  | none => false

/-- A version four address with dots. -/
def ipv4Text (address : Nat) : String :=
  ".".intercalate ([3, 2, 1, 0].map fun place => toString (address / Nat.pow 256 place % 256))

/-- Sixteen bits in hexadecimal digits. -/
def hexText (number : Nat) : String := String.ofList (Nat.toDigits 16 number)

/-- A part of a version four address within one of version six: below 256, no zero in front. -/
def plainPart? (part : List Char) : Option Nat :=
  match part with
  | '0' :: _ :: _ => none
  | part => (Number.digits? 10 part).filter (· < 256)

/-- The two pieces of a version four address at the end of one of version six. -/
def lastPieces? (chars : List Char) : Option (List Nat) :=
  match (Text.splitOn ['.'] chars).mapM plainPart? with
  | some [a, b, c, d] => some [a * 256 + b, c * 256 + d]
  | _ => none

def piece? (chars : List Char) : Option Nat :=
  if chars.length ≤ 4 then Number.digits? 16 chars else none

/-- The pieces between colons; `isLast` tells whether a version four address may end them. -/
def pieces? (isLast : Bool) (chars : List Char) : Option (List Nat) :=
  if chars.isEmpty then some []
  else
    let parts := Text.splitOn [':'] chars
    match parts.getLast? with
    | some last =>
      if isLast && last.contains '.' then do
        return (← parts.dropLast.mapM piece?) ++ (← lastPieces? last)
      else parts.mapM piece?
    | none => some []

/-- The eight pieces of a version six address; a double colon stands for pieces of zero. -/
def ipv6? (chars : List Char) : Option (List Nat) :=
  match Text.cutAt? [':', ':'] chars with
  | none => (pieces? true chars).filter (·.length == 8)
  | some (front, back) => do
    let front ← pieces? false front
    let back ← pieces? true back
    if 8 ≤ front.length + back.length then none
    return front ++ List.replicate (8 - front.length - back.length) 0 ++ back

/-- The first longest run of zeros, as its start and length. -/
def longestZeros (pieces : List Nat) : Nat × Nat :=
  (List.range pieces.length).foldl (fun best start =>
    let length := ((pieces.drop start).takeWhile (· == 0)).length
    if best.2 < length then (start, length) else best) (0, 0)

/-- A version six address with its longest run of zeros left out. -/
def ipv6Text (pieces : List Nat) : String :=
  let (start, length) := longestZeros pieces
  let texts := fun numbers : List Nat => ":".intercalate (numbers.map hexText)
  if length < 2 then s!"[{texts pieces}]"
  else s!"[{texts (pieces.take start)}::{texts (pieces.drop (start + length))}]"

end ScriptHost.Address
