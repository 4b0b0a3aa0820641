import ScriptHost.Disk.OpenFile
import ScriptHost.Resource.Table

/-!
Files by handle. An operation gives its result or the reason why it failed, and in either case the
service and the disk after it.
-/
namespace ScriptHost

/-- The open files. -/
structure FileService where
  ids : Allocator := {}
  files : Table Disk.OpeningId := { kind := .file }

instance : Inhabited FileService := ⟨{}⟩

/-- How many bytes a program asks for. -/
def readLimit (count : Int) : Except HostError Nat :=
  if count < 0 then .error (.invalidArgument (.negativeLength count)) else .ok count.toNat

/-- A step that the system takes unless it has reasons of its own to fail it. -/
def onSystem (faults : Faults) (operation : Operation) (step : Except Errno α) :
    Except HostError α :=
  match faults operation, step with
  | some cause, _ => .error (.io operation cause)
  | none, .ok result => .ok result
  | none, .error errno => .error (.io operation (.os errno))

/-- A step on a path: no path with a NUL character reaches the system. -/
def onPath (operation : Operation) (path : String) (step : Except Errno α)
    (faults : Faults := .none) : Except HostError α :=
  if path.toList.contains '\x00' then .error (.io operation .nulInPath)
  else onSystem faults operation step

namespace FileService

/-- Open a file and issue its handle. -/
def openPath (service : FileService) (disk : Disk) (path mode : String) :
    Except HostError Handle × FileService × Disk :=
  match Disk.OpenMode.ofText mode with
  | .error error => (.error error, service, disk)
  | .ok mode =>
    match onPath .openFile path (disk.openFile path mode) disk.faults with
    | .error error => (.error error, service, disk)
    | .ok (file, disk) =>
      let (opening, disk) := disk.addOpening file
      (.ok service.ids.next,
        { ids := service.ids.advance, files := service.files.store service.ids.next opening }, disk)

/-- Read up to so many bytes, fewer only at the end of the file. A read that fails may have moved
the position all the same. -/
def read (service : FileService) (disk : Disk) (handle : Handle) (count : Int) :
    Except HostError Bytes × FileService × Disk :=
  match readLimit count with
  | .error error => (.error error, service, disk)
  | .ok limit =>
    match service.files.get handle with
    | .error error => (.error error, service, disk)
    | .ok opening =>
      if limit = 0 then (.ok [], service, disk)
      else
        let file := disk.opening opening
        match onSystem disk.faults .read (disk.readFile file limit) with
        | .error error =>
          (.error error, service, disk.setOpening opening (disk.cutShort file limit))
        | .ok (data, file, disk) => (.ok data, service, disk.setOpening opening file)

/-- Write once; gives how many bytes were taken. -/
def write (service : FileService) (disk : Disk) (handle : Handle) (data : Bytes) :
    Except HostError Nat × FileService × Disk :=
  match service.files.get handle with
  | .error error => (.error error, service, disk)
  | .ok opening =>
    match onSystem disk.faults .write (disk.writeFile (disk.opening opening) data) with
    | .error error => (.error error, service, disk)
    | .ok (count, file, disk) => (.ok count, service, disk.setOpening opening file)

/-- Close a file. -/
def close (service : FileService) (disk : Disk) (handle : Handle) :
    Except HostError Unit × FileService × Disk :=
  match service.files.take? handle with
  | some (_, files) => (.ok (), { service with files }, disk)
  | none => (.error (service.files.notFound handle), service, disk)

/-- The number of open files. -/
def openCount (service : FileService) : Nat := service.files.size

end FileService

namespace Disk

/-- Whether a path leads anywhere. -/
def pathExists (disk : Disk) (path : String) : Except HostError Bool :=
  match onPath .stat path (disk.find .follow path) disk.faults with
  | .ok _ => .ok true
  | .error (.io _ (.os .noEntry)) => .ok false
  | .error error => .error error

/-- Remove an empty directory or the name of anything else. -/
def removePath (disk : Disk) (path : String) : Except HostError Unit × Disk :=
  let step :=
    match disk.find .noFollow path with
    | .error errno => .error errno
    | .ok node =>
      if disk.isDirectory node then disk.removeDirectory path else disk.removeFile path
  match onPath .remove path step disk.faults with
  | .error error => (.error error, disk)
  | .ok disk => (.ok (), disk)

/-- Make a directory. -/
def makePath (disk : Disk) (path : String) : Except HostError Unit × Disk :=
  match onPath .makeDirectory path (disk.makeDirectory path) disk.faults with
  | .error error => (.error error, disk)
  | .ok disk => (.ok (), disk)

end Disk

end ScriptHost
