import ScriptHost.Error.Host

/-!
The modes in which files are opened.
-/
namespace ScriptHost.Disk

/-- How a file is opened. -/
inductive OpenMode where
  | read
  | write
  | append
  | readWrite
  | writeRead
  | appendRead
  | createReadWrite
  deriving DecidableEq, Repr

namespace OpenMode

def text : OpenMode → String
  | .read => "r"
  | .write => "w"
  | .append => "a"
  | .readWrite => "r+"
  | .writeRead => "w+"
  | .appendRead => "a+"
  | .createReadWrite => "rw"

def all : List OpenMode :=
  [.read, .write, .append, .readWrite, .writeRead, .appendRead, .createReadWrite]

/-- Read a mode; nothing but the exact texts will do. -/
def ofText (text : String) : Except HostError OpenMode :=
  match all.find? (·.text == text) with
  | some mode => .ok mode
  | none => .error (.invalidArgument (.unknownOpenMode text))

def reads : OpenMode → Bool
  | .write | .append => false
  | _ => true

def writes : OpenMode → Bool
  | .read => false
  | _ => true

def appends : OpenMode → Bool
  | .append | .appendRead => true
  | _ => false

/-- Whether a file that is not there is made. -/
def creates : OpenMode → Bool
  | .read | .readWrite => false
  | _ => true

/-- Whether the content is dropped. -/
def truncates : OpenMode → Bool
  | .write | .writeRead => true
  | _ => false

end OpenMode

end ScriptHost.Disk
