import ScriptHost.Error.Io
import ScriptHost.Text.Utf8

/-!
The channel that programs print to and read lines from. Input is either a list of lines or a
stream of bytes that is cut into lines as it is read; an undecodable line is lost, and only that.
-/
namespace ScriptHost

/-- Where lines come from. -/
inductive ConsoleInput where
  | lines (rest : List String)
  | stream (rest : Bytes)
  deriving Repr

/-- What was printed so far and what can still be read. -/
structure Console where
  output : String := ""
  errors : String := ""
  input : ConsoleInput := .lines []
  faults : Faults := .none

instance : Inhabited Console := ⟨{}⟩

namespace Console

/-- The first line of a stream with its line feed, and the rest. -/
def cutSegment : Bytes → Bytes × Bytes
  | [] => ([], [])
  | byte :: rest =>
    if byte = 10 then ([byte], rest)
    else
      let (segment, behind) := cutSegment rest
      (byte :: segment, behind)

/-- A line without its line feed and one carriage return in front of that; one that ends with the
stream is left as it is. -/
def stripLineEnd (segment : Bytes) : Bytes :=
  match segment.reverse with
  | 10 :: 13 :: rest => rest.reverse
  | 10 :: rest => rest.reverse
  | _ => segment

/-- The text of a line, given with its terminator. -/
def textOfSegment (segment : Bytes) : Except IoCause String :=
  match Text.ofBytes? (stripLineEnd segment) with
  | some text => .ok text
  | none => .error .notUtf8

/-- Print. -/
def write (console : Console) (text : String) : Console :=
  { console with output := console.output ++ text }

/-- Print to the error channel. -/
def writeError (console : Console) (text : String) : Console :=
  { console with errors := console.errors ++ text }

/-- Read a line, nothing at the end of the input. -/
def readLine (console : Console) : Except IoCause (Option String) × Console :=
  match console.faults .readLine, console.input with
  | some cause, _ => (.error cause, console)
  | none, .lines [] => (.ok none, console)
  | none, .lines (line :: rest) => (.ok (some line), { console with input := .lines rest })
  | none, .stream [] => (.ok none, console)
  | none, .stream bytes =>
    let (segment, rest) := cutSegment bytes
    ((textOfSegment segment).map some, { console with input := .stream rest })

end Console

end ScriptHost
