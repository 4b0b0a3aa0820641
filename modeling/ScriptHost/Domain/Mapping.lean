import ScriptHost.Domain.MappingTables
import ScriptHost.Text.Composition

/-!
What becomes of a domain name before it is cut into labels: letters become small, variants become what
they stand for, and the whole is composed. Characters that no name may hold are refused.
-/
namespace ScriptHost.Domain

def replacedTable : Text.CodeTable := .ofText replacedText

def droppedTable : Text.CodeTable := .ofText droppedText

def keptTable : Text.CodeTable := .ofText keptText

/-- What stands for a character, if a name may hold it. -/
def mapChar? (char : Char) : Option (List Char) :=
  if char.toNat < 0x80 then some [char.toLower]
  else if keptTable.contains char then some [char]
  else if droppedTable.contains char then some []
  else replacedTable.image? char

/-- The mapped and composed form of a name. -/
def settle? (chars : List Char) : Option (List Char) :=
  (chars.mapM mapChar?).map fun mapped => Text.compose mapped.flatten

/-- Whether a name is its own mapped and composed form, character by character. -/
def isSettled (chars : List Char) : Bool :=
  (chars.all fun char => mapChar? char == some [char]) && Text.compose chars == chars

end ScriptHost.Domain
