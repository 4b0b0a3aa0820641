import ScriptHost.Text.Split
import ScriptHost.Text.Utf8

/-!
Paths as text and as the names that a walk goes through.
-/
namespace ScriptHost.Disk

/-- A path cut at its slashes. -/
structure Path where
  absolute : Bool
  /-- The names between slashes, empty ones left out. -/
  names : List String
  /-- Whether a slash follows the last name. -/
  slashAtEnd : Bool
  deriving DecidableEq, Repr

/-- The pieces between slashes. -/
def pieces (text : String) : List String := Text.split "/" text

def Path.ofText (text : String) : Path :=
  { absolute := text.startsWith "/"
    names := (pieces text).filter (!·.isEmpty)
    slashAtEnd := text.endsWith "/" }

/-- The names that a walk goes through, an empty one last if a slash follows the last name: the
walk has to end in a directory then. -/
def Path.walk (path : Path) : List String :=
  path.names ++ if path.slashAtEnd then [""] else []

/-- A path seen from a directory: an absolute one stands for itself, any other is written behind
the directory. Nothing is normalized. -/
def joinPath (directory path : String) : String :=
  if path.startsWith "/" then path
  else if directory.isEmpty || directory.endsWith "/" then directory ++ path
  else directory ++ "/" ++ path

/-- The longest name that a directory can hold, in bytes. -/
def maxNameBytes : Nat := 255

/-- The longest path that can be asked for, in bytes with the byte that ends it. -/
def maxPathBytes : Nat := 4096

def nameTooLong (name : String) : Bool := maxNameBytes < (Text.toBytes name).length

end ScriptHost.Disk
