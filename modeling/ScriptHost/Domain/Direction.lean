import ScriptHost.Domain.PropertyTables
import ScriptHost.Text.CodeTable

/-!
Labels in scripts that are written from right to left. A name that holds one keeps to a rule in all
its labels, so that none can be mistaken for another when the name is shown.
-/
namespace ScriptHost.Domain

/-- How a character runs. -/
inductive Direction where
  | leftToRight
  | rightToLeft
  | arabicNumber
  | europeanNumber
  /-- As what it stands on. -/
  | nonspacing
  /-- In no direction of its own. -/
  | neutral
  deriving DecidableEq, Repr

namespace Direction

def rightToLeftTable : Text.CodeTable := .ofText rightToLeftText

def arabicNumberTable : Text.CodeTable := .ofText arabicNumberText

def europeanNumberTable : Text.CodeTable := .ofText europeanNumberText

def nonspacingTable : Text.CodeTable := .ofText nonspacingText

def neutralTable : Text.CodeTable := .ofText neutralText

/-- The direction of a character. -/
def ofChar (char : Char) : Direction :=
  if rightToLeftTable.contains char then .rightToLeft
  else if arabicNumberTable.contains char then .arabicNumber
  else if europeanNumberTable.contains char then .europeanNumber
  else if nonspacingTable.contains char then .nonspacing
  else if neutralTable.contains char then .neutral
  else .leftToRight

end Direction

/-- Whether a label holds something that is written from right to left. -/
def holdsRightToLeft (label : List Char) : Bool :=
  label.any fun char =>
    0x590 ≤ char.toNat &&
      (Direction.ofChar char == .rightToLeft || Direction.ofChar char == .arabicNumber)

/-- Whether the directions of a label agree: it begins with a letter; from left to right it holds
nothing that runs the other way and ends with a letter or digit; from right to left it holds no letter
that runs the other way, ends with a letter or digit, and mixes no two kinds of digits. Marks at the
end do not count. An empty label agrees. -/
def areDirectionsFit : List Direction → Bool
  | [] => true
  | .leftToRight :: rest =>
    !rest.contains .rightToLeft && !rest.contains .arabicNumber &&
      endsIn [.leftToRight, .europeanNumber] rest
  | .rightToLeft :: rest =>
    !rest.contains .leftToRight &&
      endsIn [.rightToLeft, .europeanNumber, .arabicNumber] rest &&
      !(rest.contains .europeanNumber && rest.contains .arabicNumber)
  | _ :: _ => false
where
  endsIn (allowed : List Direction) (rest : List Direction) : Bool :=
    match rest.reverse.dropWhile (· == .nonspacing) with
    | [] => true
    | last :: _ => allowed.contains last

/-- Whether a label may stand in a name that runs from right to left in some label. -/
def isDirectionFit (label : List Char) : Bool := areDirectionsFit (label.map Direction.ofChar)

end ScriptHost.Domain
