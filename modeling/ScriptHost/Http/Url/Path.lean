import ScriptHost.Http.Url.Basic
import ScriptHost.Text.Ascii
import ScriptHost.Text.Split

/-!
The path of an address, segment by segment. A segment of one dot stands for its directory and one of
two dots for the directory above, but the letter of a drive stays.
-/
namespace ScriptHost.Http.Url

/-- Whether a segment stands for its directory. -/
def isSingleDot (segment : List Char) : Bool :=
  [".", "%2e"].contains (Text.lowerAscii (String.ofList segment))

/-- Whether a segment stands for the directory above. -/
def isDoubleDot (segment : List Char) : Bool :=
  ["..", ".%2e", "%2e.", "%2e%2e"].contains (Text.lowerAscii (String.ofList segment))

/-- Whether a segment is the letter of a drive. -/
def isDrive : List Char → Bool
  | [letter, mark] => letter.isAlpha && (mark == ':' || mark == '|')
  | _ => false

/-- Whether a segment is the letter of a drive up to a backslash or its end. -/
def startsWithDrive (segment : List Char) : Bool := isDrive (segment.takeWhile (· != '\\'))

/-- A segment as it stands in the path behind others. The letter of a drive in front of the path of a
file has a colon. -/
def settleSegment (kind : SchemeKind) (done : List (List Char)) (segment : List Char) : List Char :=
  match kind, done, isDrive segment, segment with
  | .file, [], true, letter :: _ => [letter, ':']
  | _, _, _, segment => escapePath segment

/-- The segments above a directory, in reverse; a drive has nothing above it. -/
def parent : List (List Char) → List (List Char)
  | [] => []
  | segment :: rest => if startsWithDrive segment then segment :: rest else rest

/-- Segments with the dots resolved, in reverse; a dot at the end leaves an empty segment. -/
def resolveDots (kind : SchemeKind) (done : List (List Char)) :
    List (List Char) → List (List Char)
  | [] => done
  | [segment] =>
    if isDoubleDot segment then [] :: parent done
    else if isSingleDot segment then [] :: done
    else settleSegment kind done segment :: done
  | segment :: rest =>
    if isDoubleDot segment then resolveDots kind (parent done) rest
    else if isSingleDot segment then resolveDots kind done rest
    else resolveDots kind (settleSegment kind done segment :: done) rest

/-- The segments of a path, given what stands behind its first slash. -/
def segments (kind : SchemeKind) (chars : List Char) : List (List Char) :=
  let chars :=
    if kind.turnsSlashes then chars.map fun char => if char = '\\' then '/' else char else chars
  (resolveDots kind [] (Text.splitOn ['/'] chars)).reverse

/-- Segments as a path. -/
def pathText (segments : List (List Char)) : String :=
  String.ofList (segments.flatMap ('/' :: ·))

/-- Segments without the empty ones in front, except for the last. -/
def dropEmpty : List (List Char) → List (List Char)
  | [] :: segment :: rest => dropEmpty (segment :: rest)
  | segments => segments

end ScriptHost.Http.Url
