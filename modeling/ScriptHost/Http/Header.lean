import ScriptHost.SortedMap
import ScriptHost.Text.Ascii
import ScriptHost.Text.Blank
import ScriptHost.Text.Utf8

/-!
Header names and maps of headers. Names are compared in one canonical spelling; the values of a
repeated header are joined.
-/
namespace ScriptHost.Http

/-- Letters, digits and the marks that a method or header name may hold. -/
def isTokenChar (char : Char) : Bool :=
  char.isAlphanum || "!#$%&'*+-.^_\x60|~".toList.contains char

/-- A non-empty run of token characters. -/
def isToken (text : String) : Bool := !text.isEmpty && text.toList.all isTokenChar

/-- Header values by name. -/
abbrev Headers := SortedMap String String

/-- Capitals at the start and behind each hyphen, small letters elsewhere. -/
def canonicalChars (atStart : Bool) : List Char → List Char
  | [] => []
  | char :: rest =>
    (if atStart then char.toUpper else char.toLower) :: canonicalChars (char == '-') rest

/-- The one spelling of a header name that maps are keyed with. -/
def canonicalName (name : String) : String := String.ofList (canonicalChars true name.toList)

namespace Headers

/-- Add a header; a further value of a name is joined to the earlier ones. -/
def add (headers : Headers) (name value : String) : Headers :=
  match headers.find? name with
  | some earlier => headers.insert name (earlier ++ ", " ++ value)
  | none => headers.insert name value

/-- The value of a header under any spelling of its name. -/
def value? (headers : Headers) (name : String) : Option String :=
  headers.find? (canonicalName name)

end Headers

end ScriptHost.Http
