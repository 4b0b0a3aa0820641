/-!
Comparison of names without regard to ASCII case. Letters beyond ASCII are left as they are.
-/
namespace ScriptHost.Text

/-- The text with ASCII capitals made small. -/
def lowerAscii (text : String) : String := String.ofList (text.toList.map Char.toLower)

/-- Equal up to ASCII case. -/
def equalIgnoringCase (first second : String) : Bool :=
  first.toList.map Char.toLower == second.toList.map Char.toLower

end ScriptHost.Text
