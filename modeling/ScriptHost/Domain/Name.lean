import ScriptHost.Domain.Direction
import ScriptHost.Domain.Joining
import ScriptHost.Domain.Mapping
import ScriptHost.Domain.Punycode

/-!
Domain names in the letters of ASCII. A label with other letters is written in them behind a prefix;
a label that has the prefix already must be one that could have been written so.
-/
namespace ScriptHost.Domain

/-- What labels begin with that stand for others. -/
def labelPrefix : List Char := ['x', 'n', '-', '-']

def isAscii (chars : List Char) : Bool := chars.all (·.toNat < 0x80)

/-- How many characters a label may have that is written in ASCII. -/
def mostWritten : Nat := 1000

/-- How many characters may follow the prefix. -/
def mostRead : Nat := 2000

/-- A label as it is shown and as it is written in ASCII. -/
structure Label where
  shown : List Char
  written : List Char
  deriving DecidableEq, Repr

/-- Read a label of a settled name. -/
def Label.of? (chars : List Char) : Option Label :=
  match Text.after? labelPrefix chars with
  | some rest =>
    if !isAscii chars || mostRead < rest.length then none
    else
      match Punycode.decode? rest with
      | some shown =>
        if isAscii shown || !isSettled shown || (Text.after? labelPrefix shown).isSome then none
        else some ⟨shown, chars⟩
      | none => none
  | none =>
    if isAscii chars then some ⟨chars, chars⟩
    else if mostWritten < chars.length then none
    else some ⟨chars, labelPrefix ++ Punycode.encode chars⟩

/-- Whether a label by itself may stand in a name: it begins with no mark, and its joiners show. -/
def Label.isFit (label : Label) : Bool :=
  !label.shown.head?.any isMark && areJoinersFit [] label.shown

/-- Characters that cannot stand in a domain name of an address. -/
def isForbidden (char : Char) : Bool :=
  char.toNat ≤ 0x20 || char.toNat == 0x7F || "%#/:<>?@[\\]^|".toList.contains char

/-- The name in the letters of ASCII, if it is one. -/
def toAscii? (name : List Char) : Option (List Char) := do
  let settled ← settle? name
  let labels ← (Text.splitOn ['.'] settled).mapM Label.of?
  let isMixed := labels.any fun label => holdsRightToLeft label.shown
  if !labels.all Label.isFit then none
  if isMixed && !labels.all (fun label => isDirectionFit label.shown) then none
  let written := ['.'].intercalate (labels.map Label.written)
  if written.any isForbidden then none
  return written

end ScriptHost.Domain
