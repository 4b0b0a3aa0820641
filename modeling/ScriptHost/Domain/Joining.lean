import ScriptHost.Domain.PropertyTables
import ScriptHost.Text.Composition

/-!
The two characters without width that join letters or keep them apart. A label may hold them only
where they show: behind a sign that takes the vowel away, or, for the one that keeps apart, between
letters that would join.
-/
namespace ScriptHost.Domain

def markTable : Text.CodeTable := .ofText markText

def joiningBothTable : Text.CodeTable := .ofText joiningBothText

def joiningLeftTable : Text.CodeTable := .ofText joiningLeftText

def joiningRightTable : Text.CodeTable := .ofText joiningRightText

def transparentTable : Text.CodeTable := .ofText transparentText

/-- Whether a character is a combining mark. -/
def isMark (char : Char) : Bool := 0x300 ≤ char.toNat && markTable.contains char

/-- The class of the signs that take the vowel away. -/
def vowelKillerClass : Nat := 9

/-- Whether the nearest character that joining does not pass through joins on one side or on both. -/
def meetsJoining (oneSide : Text.CodeTable) (chars : List Char) : Bool :=
  match chars.dropWhile fun char => transparentTable.contains char with
  | [] => false
  | char :: _ =>
    oneSide.contains char || joiningBothTable.contains char

/-- Whether every joiner of a label shows; `before` is what precedes, nearest first. -/
def areJoinersFit (before : List Char) : List Char → Bool
  | [] => true
  | char :: rest =>
    let isBehindKiller := match before with
      | [] => false
      | previous :: _ => Text.markClass previous == vowelKillerClass
    let isFit :=
      if char = '\u200c' then
        isBehindKiller || (meetsJoining joiningLeftTable before && meetsJoining joiningRightTable rest)
      else if char = '\u200d' then isBehindKiller
      else true
    isFit && areJoinersFit (char :: before) rest

end ScriptHost.Domain
