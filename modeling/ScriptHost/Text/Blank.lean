/-!
Blank characters are those with the Unicode property White_Space; trimming removes them from both
ends and nothing else.
-/
namespace ScriptHost.Text

/-- The Unicode property White_Space. -/
def isBlank (char : Char) : Bool :=
  let code := char.toNat
  (0x09 ≤ code && code ≤ 0x0D) || code == 0x20 || code == 0x85 || code == 0xA0 ||
    code == 0x1680 || (0x2000 ≤ code && code ≤ 0x200A) || code == 0x2028 || code == 0x2029 ||
    code == 0x202F || code == 0x205F || code == 0x3000

/-- Drop blanks at both ends. -/
def trimChars (chars : List Char) : List Char :=
  ((chars.dropWhile isBlank).reverse.dropWhile isBlank).reverse

/-- Drop blanks at both ends of a text. -/
def trim (text : String) : String := String.ofList (trimChars text.toList)

end ScriptHost.Text
