import ScriptHost.Disk.Tree

/-!
Open files: reading and writing at the position of one opening. The system may give a read fewer
bytes than asked and take fewer from a write than given.
-/
namespace ScriptHost.Disk

/-- Open the file or directory of a path. -/
def openFile (disk : Disk) (path : String) (mode : OpenMode) : Except Errno (OpenFile × Disk) :=
  match disk.resolve (if mode.creates then .create else .follow) path with
  | .error errno => .error errno
  | .ok (.free directory name) =>
    if mode.creates then
      let (node, disk) := disk.addNode directory name (.file [])
      .ok ({ node, mode }, disk)
    else .error .noEntry
  | .ok (.node node) =>
    if disk.isDirectory node then
      if mode.writes then .error .isADirectory else .ok ({ node, mode }, disk)
    else
      .ok ({ node, mode }, if mode.truncates then disk.setNode node (.file []) else disk)

/-- The content of a file, nothing for any other node. -/
def content (disk : Disk) (node : NodeId) : Bytes :=
  match disk.node node with
  | .file content => content
  | _ => []

/-- Bytes that are set at a position of a content; a gap is filled with zeros. -/
def overwrite (content : Bytes) (position : Nat) (data : Bytes) : Bytes :=
  content.take position ++ List.replicate (position - content.length) 0 ++ data ++
    content.drop (position + data.length)

/-- The bytes that a grant leaves of so many; a grant of nothing still moves one byte. -/
def granted (grants : List Nat) (wanted : Nat) : Nat :=
  match grants with
  | [] => wanted
  | grant :: _ => min wanted (max grant 1)

/-- Read from a content up to a limit or the end, as often as needed; gives the bytes and the
grants that are left. -/
def readUpTo (grants : List Nat) (limit : Nat) (bytes : Bytes) : Bytes × List Nat :=
  match limit, bytes, grants with
  | 0, _, grants => ([], grants)
  | _, [], grants => ([], grants.tail)
  | limit, bytes, [] => (bytes.take limit, [])
  | limit, bytes, grant :: grants =>
    let step := min limit (max grant 1)
    let (more, left) := readUpTo grants (limit - step) (bytes.drop step)
    (bytes.take step ++ more, left)

/-- Read up to a limit or the end at the position of an opening. -/
def readFile (disk : Disk) (file : OpenFile) (limit : Nat) :
    Except Errno (Bytes × OpenFile × Disk) :=
  if !file.mode.reads then .error .badDescriptor
  else if disk.isDirectory file.node then .error .isADirectory
  else
    let (data, readGrants) :=
      readUpTo disk.readGrants limit ((disk.content file.node).drop file.position)
    .ok (data, { file with position := file.position + data.length }, { disk with readGrants })

/-- An opening after a read that failed on its way, behind what had been given by then. -/
def cutShort (disk : Disk) (file : OpenFile) (limit : Nat) : OpenFile :=
  match disk.readFile file (min disk.givenBeforeFault (limit - 1)) with
  | .ok (_, file, _) => file
  | .error _ => file

/-- Write once at the position of an opening, or at the end where it appends. -/
def writeFile (disk : Disk) (file : OpenFile) (data : Bytes) :
    Except Errno (Nat × OpenFile × Disk) :=
  if !file.mode.writes then .error .badDescriptor
  else if data.isEmpty then .ok (0, file, disk)
  else
    let content := disk.content file.node
    let position := if file.mode.appends then content.length else file.position
    let stored := data.take (granted disk.writeGrants data.length)
    let disk := { disk with writeGrants := disk.writeGrants.tail }
    .ok (stored.length, { file with position := position + stored.length },
      disk.setNode file.node (.file (overwrite content position stored)))

/-- The opening of a number. -/
def opening (disk : Disk) (id : OpeningId) : OpenFile := disk.openings.getD id default

/-- Keep an opening under a new number. -/
def addOpening (disk : Disk) (file : OpenFile) : OpeningId × Disk :=
  (disk.openings.size, { disk with openings := disk.openings.push file })

/-- Replace an opening. -/
def setOpening (disk : Disk) (id : OpeningId) (file : OpenFile) : Disk :=
  { disk with openings := disk.openings.setIfInBounds id file }

/-- The whole content of the file of a path. -/
def readWhole (disk : Disk) (path : String) : Except Errno Bytes :=
  match disk.find .follow path with
  | .error errno => .error errno
  | .ok node => if disk.isDirectory node then .error .isADirectory else .ok (disk.content node)

end ScriptHost.Disk
