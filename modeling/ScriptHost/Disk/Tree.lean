import ScriptHost.Disk.OpenMode
import ScriptHost.Disk.Path
import ScriptHost.SortedMap

/-!
A file tree: numbered nodes, the root being the first. A node stays when its last name goes, so an
open file outlives its removal. Walks follow symbolic links a limited number of times.
-/
namespace ScriptHost

namespace Disk

/-- The number of a node. -/
abbrev NodeId := Nat

/-- A file, a directory or a symbolic link. -/
inductive Node where
  | file (content : Bytes)
  | directory (parent : NodeId) (entries : SortedMap String NodeId)
  | link (target : String)
  deriving Inhabited

/-- The number of an opening. -/
abbrev OpeningId := Nat

/-- One opening of a file. -/
structure OpenFile where
  node : NodeId
  mode : OpenMode
  position : Nat := 0
  deriving DecidableEq, Repr

instance : Inhabited OpenFile := ⟨{ node := 0, mode := .read }⟩

end Disk

/-- A file tree with its openings, how the system splits reads and writes, and what it fails. -/
structure Disk where
  nodes : Array Disk.Node
  /-- All openings so far. -/
  openings : Array Disk.OpenFile := #[]
  /-- How many bytes the coming reads give at most; afterwards a read gives all that is asked. -/
  readGrants : List Nat := []
  /-- How many bytes the coming writes take at most; afterwards a write takes all that is given. -/
  writeGrants : List Nat := []
  faults : Faults := .none
  /-- How many bytes a read has given at most when the system fails it. -/
  givenBeforeFault : Nat := 0

namespace Disk

/-- The root directory. -/
def root : NodeId := 0

/-- The tree with an empty root directory. -/
def empty : Disk := { nodes := #[.directory root SortedMap.empty] }

instance : Inhabited Disk := ⟨empty⟩

/-- The node of a number; a number from elsewhere stands for an empty file. -/
def node (disk : Disk) (id : NodeId) : Node := disk.nodes.getD id (.file [])

/-- Replace a node. -/
def setNode (disk : Disk) (id : NodeId) (node : Node) : Disk :=
  { disk with nodes := disk.nodes.setIfInBounds id node }

/-- Where the last name of a path leads. -/
inductive Place where
  /-- A node. -/
  | node (id : NodeId)
  /-- A name that the directory does not hold. -/
  | free (directory : NodeId) (name : String)
  deriving DecidableEq, Repr

/-- What a walk is for. -/
inductive Intent where
  /-- The node that the path means. -/
  | follow
  /-- The node under the last name, even if that is a symbolic link. -/
  | noFollow
  /-- A file that is made if there is none; it cannot have a name with a slash behind it. -/
  | create
  deriving DecidableEq, Repr

/-- Walk names from a node; `viaLink` goes on behind a symbolic link. -/
def walkWith (disk : Disk) (intent : Intent)
    (viaLink : NodeId → List String → Except Errno Place) :
    NodeId → List String → Except Errno Place
  | here, [] => .ok (.node here)
  | here, name :: rest =>
    match disk.node here with
    | .directory parent entries =>
      if name = "." || name.isEmpty then walkWith disk intent viaLink here rest
      else if name = ".." then walkWith disk intent viaLink parent rest
      else if intent = .create ∧ rest = [""] then .error .isADirectory
      else if nameTooLong name then .error .nameTooLong
      else match entries.find? name with
        | none => if rest.isEmpty then .ok (.free here name) else .error .noEntry
        | some id =>
          match disk.node id with
          | .link target =>
            if rest.isEmpty && intent == .noFollow then .ok (.node id)
            else
              let path := Path.ofText target
              viaLink (if path.absolute then root else here) (path.walk ++ rest)
          | _ => walkWith disk intent viaLink id rest
    | _ => .error .notADirectory

/-- Walk names from a node through fewer than so many symbolic links. -/
def walk (disk : Disk) (intent : Intent) : (links : Nat) → NodeId → List String →
    Except Errno Place
  | 0 => fun _ _ => .error .tooManyLinks
  | links + 1 => disk.walkWith intent (disk.walk intent links)

/-- How many links a walk follows. -/
def maxLinks : Nat := 40

/-- Where a path leads. Relative paths start at the root. -/
def resolve (disk : Disk) (intent : Intent) (path : String) : Except Errno Place :=
  if path.isEmpty then .error .noEntry
  else if maxPathBytes ≤ (Text.toBytes path).length then .error .nameTooLong
  else disk.walk intent (maxLinks + 1) root (Path.ofText path).walk

/-- The node that a path leads to. -/
def find (disk : Disk) (intent : Intent) (path : String) : Except Errno NodeId :=
  match disk.resolve intent path with
  | .ok (.node id) => .ok id
  | .ok (.free _ _) => .error .noEntry
  | .error errno => .error errno

/-- The last name of a path and the directory in which it is looked up. -/
inductive LastName where
  | root
  | self
  | parent
  | entry (directory : NodeId) (name : String)
  deriving DecidableEq, Repr

/-- Walk to the directory of a path's last name. -/
def resolveLast (disk : Disk) (path : String) : Except Errno LastName :=
  if path.isEmpty then .error .noEntry
  else if maxPathBytes ≤ (Text.toBytes path).length then .error .nameTooLong
  else
    let names := (Path.ofText path).names
    match names.getLast? with
    | none => .ok .root
    | some name =>
      match disk.walk .follow (maxLinks + 1) root (names.dropLast ++ [""]) with
      | .error errno => .error errno
      | .ok (.free _ _) => .error .noEntry
      | .ok (.node directory) =>
        if name = "." then .ok .self
        else if name = ".." then .ok .parent
        else if nameTooLong name then .error .nameTooLong
        else .ok (.entry directory name)

/-- The entries of a directory, none for any other node. -/
def entries (disk : Disk) (id : NodeId) : SortedMap String NodeId :=
  match disk.node id with
  | .directory _ entries => entries
  | _ => SortedMap.empty

/-- Whether a node is a directory. -/
def isDirectory (disk : Disk) (id : NodeId) : Bool :=
  match disk.node id with
  | .directory _ _ => true
  | _ => false

/-- Give a name in a directory to a node. -/
def setEntry (disk : Disk) (directory : NodeId) (name : String) (id : NodeId) : Disk :=
  match disk.node directory with
  | .directory parent entries => disk.setNode directory (.directory parent (entries.insert name id))
  | _ => disk

/-- Take a name out of a directory. -/
def dropEntry (disk : Disk) (directory : NodeId) (name : String) : Disk :=
  match disk.node directory with
  | .directory parent entries => disk.setNode directory (.directory parent (entries.erase name))
  | _ => disk

/-- Make a node under a name in a directory. -/
def addNode (disk : Disk) (directory : NodeId) (name : String) (node : Node) : NodeId × Disk :=
  let id := disk.nodes.size
  (id, { disk with nodes := disk.nodes.push node }.setEntry directory name id)

/-- Make an empty directory. -/
def makeDirectory (disk : Disk) (path : String) : Except Errno Disk :=
  match disk.resolveLast path with
  | .error errno => .error errno
  | .ok (.entry directory name) =>
    if (disk.entries directory).contains name then .error .alreadyExists
    else .ok (disk.addNode directory name (.directory directory SortedMap.empty)).2
  | .ok _ => .error .alreadyExists

/-- Make a symbolic link. -/
def makeLink (disk : Disk) (path target : String) : Except Errno Disk :=
  match disk.resolveLast path with
  | .error errno => .error errno
  | .ok (.entry directory name) =>
    if (disk.entries directory).contains name then .error .alreadyExists
    else .ok (disk.addNode directory name (.link target)).2
  | .ok _ => .error .alreadyExists

/-- Remove an empty directory. -/
def removeDirectory (disk : Disk) (path : String) : Except Errno Disk :=
  match disk.resolveLast path with
  | .error errno => .error errno
  | .ok .root => .error .busy
  | .ok .self => .error .invalidArgument
  | .ok .parent => .error .directoryNotEmpty
  | .ok (.entry directory name) =>
    match (disk.entries directory).find? name with
    | none => .error .noEntry
    | some id =>
      if !disk.isDirectory id then .error .notADirectory
      else if !(disk.entries id).isEmpty then .error .directoryNotEmpty
      else .ok (disk.dropEntry directory name)

/-- Remove the name of a file or symbolic link. -/
def removeFile (disk : Disk) (path : String) : Except Errno Disk :=
  match disk.resolveLast path with
  | .error errno => .error errno
  | .ok (.entry directory name) =>
    match (disk.entries directory).find? name with
    | none => .error .noEntry
    | some id =>
      if disk.isDirectory id then .error .isADirectory
      else .ok (disk.dropEntry directory name)
  | .ok _ => .error .isADirectory

end Disk

end ScriptHost
