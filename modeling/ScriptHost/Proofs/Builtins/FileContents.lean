import ScriptHost.Proofs.Builtins.FileCalls

/-! What is written to a file comes back from it, whatever the sizes of the writes and reads are and
however the system splits them. -/
namespace ScriptHost

/-- Between two calls all but the files may change. The system may split reads and writes anew, but
it fails none for reasons of its own. -/
structure Meanwhile (before after : World) : Prop where
  files : after.files = before.files
  nodes : after.disk.nodes = before.disk.nodes
  openings : after.disk.openings = before.disk.openings
  works : after.disk.faults = .none

/-- A call of a builtin some time after the world was last looked at. -/
def FileCall (env : Environment) (name : String) (args : List Value) (before : World)
    (answer : Except BuiltinError Progress) (after : World) : Prop :=
  ∃ between, Meanwhile before between ∧
    (standardRegistry.callByName name env args).runIn between = (answer, after)

/-- Calls that write through a handle one after the other, each of which reports that all of its
bytes were taken. -/
inductive WritesFile (env : Environment) (handle : Handle) (before : World) :
    Bytes → World → Prop where
  | nothing : WritesFile env handle before [] before
  | write {count : Int64} (earlier : WritesFile env handle before data between)
      (call : FileCall env "fs.write" [.ofHandle handle, .bytes piece] between
        (.ok (.finished (.int count))) after)
      (covers : (piece.length : Int) ≤ count.toInt) :
      WritesFile env handle before (data ++ piece) after

/-- Calls that read through a handle one after the other, with the sizes they ask for and their
answers. -/
inductive ReadsFile (env : Environment) (handle : Handle) :
    World → List (Int64 × Except BuiltinError Progress) → Prop where
  | nothing : ReadsFile env handle before []
  | read (call : FileCall env "fs.read" [.ofHandle handle, .int size] before answer after)
      (more : ReadsFile env handle after calls) :
      ReadsFile env handle before ((size, answer) :: calls)

/-- The answers to reads of certain sizes where so many bytes are left: each read takes as many of
them as it asks for, or all if there are fewer, and a negative size takes none and is refused. -/
inductive Portions : Bytes → List (Int64 × Except BuiltinError Progress) → Prop where
  | nothing : Portions left []
  | read {size : Int64} (asks : 0 ≤ size.toInt)
      (length : (part.length : Int) = min size.toInt (part ++ rest).length)
      (more : Portions rest calls) :
      Portions (part ++ rest) ((size, .ok (.finished (.bytes part))) :: calls)
  | refused {size : Int64} (negative : size.toInt < 0) (more : Portions left calls) :
      Portions left
        ((size, .error (.host (.invalidArgument (.negativeLength size.toInt)))) :: calls)

/-- The bytes of an answer. -/
def bytesOf : Except BuiltinError Progress → Bytes
  | .ok (.finished (.bytes data)) => data
  | _ => []

/-- All that reads gave, one after the other. -/
def bytesRead (calls : List (Int64 × Except BuiltinError Progress)) : Bytes :=
  calls.flatMap fun call => bytesOf call.2

/-- How many bytes reads asked for together. -/
def bytesAsked (calls : List (Int64 × Except BuiltinError Progress)) : Nat :=
  (calls.map fun call => call.1.toInt.toNat).sum

/-- What reads from the start of a file come to. -/
structure ReadBack (data : Bytes) (calls : List (Int64 × Except BuiltinError Progress)) : Prop where
  portions : Portions data calls
  concatenated : bytesRead calls = data.take (bytesAsked calls)
  /-- Fewer bytes than asked come only at the end. -/
  short (k : Nat) (size : Int64) (part : Bytes) :
    calls[k]? = some (size, .ok (.finished (.bytes part))) → (part.length : Int) < size.toInt →
      bytesRead (calls.take (k + 1)) = data

section

variable {part rest left data : Bytes} {size : Int64}
  {calls : List (Int64 × Except BuiltinError Progress)}

/-- Less than what was asked for is all that there was. -/
private theorem eq_nil_of_short
    (length : (part.length : Int) = min size.toInt (part ++ rest).length)
    (short : (part.length : Int) < size.toInt) : rest = [] := by
  rw [List.length_append] at length
  exact List.eq_nil_of_length_eq_zero (by omega)

theorem Portions.bytesRead_eq (portions : Portions left calls) :
    bytesRead calls = left.take (bytesAsked calls) := by
  induction portions with
  | nothing => rfl
  | @read part rest calls size asks length more ih =>
    have whole : part.length ≤ size.toInt.toNat := by omega
    change part ++ bytesRead calls = (part ++ rest).take (size.toInt.toNat + bytesAsked calls)
    rw [ih, List.take_append, List.take_of_length_le (Nat.le_trans whole (Nat.le_add_right _ _))]
    rcases Nat.eq_or_lt_of_le whole with same | fewer
    · rw [same, Nat.add_sub_cancel_left]
    · rw [eq_nil_of_short length (by omega), List.take_nil, List.take_nil]
  | @refused left calls size negative more ih =>
    change bytesRead calls = left.take (size.toInt.toNat + bytesAsked calls)
    rw [Int.toNat_of_nonpos (Int.le_of_lt negative), Nat.zero_add, ih]

theorem Portions.readBack (portions : Portions data calls) : ReadBack data calls := by
  refine ⟨portions, portions.bytesRead_eq, fun k size part found short => ?_⟩
  induction portions generalizing k with
  | nothing => cases found
  | @read first rest calls _ asks length more ih =>
    cases k with
    | zero =>
      cases found
      rw [eq_nil_of_short length short]
      rfl
    | succ k => exact congrArg (first ++ ·) (ih k found)
  | refused _ _ ih =>
    cases k with
    | zero => cases found
    | succ k => exact ih k found

end

/-! Between its opening and its closing, a handle stands at one position of one file. -/

/-- A handle that was opened in some mode stands at a position of the file under a path. -/
private def Stands (world : World) (handle : Handle) (path : String) (mode : Disk.OpenMode)
    (position : Nat) (content : Bytes) : Prop :=
  ∃ opening node, world.files.files.get? handle = some opening ∧
    world.disk.openings[opening]? = some { node, mode, position } ∧
    world.disk.HoldsAt path node content

variable {env : Environment} {handle : Handle} {path : String} {before after : World}
  {mode : Disk.OpenMode} {position : Nat} {content piece : Bytes}

private theorem Stands.meanwhile (stands : Stands before handle path mode position content)
    (meanwhile : Meanwhile before after) : Stands after handle path mode position content := by
  obtain ⟨opening, node, live, opened, holds⟩ := stands
  refine ⟨opening, node, ?_, ?_, holds.of_nodes meanwhile.nodes⟩
  · rw [meanwhile.files, live]
  · rw [meanwhile.openings, opened]

private theorem stands_of_opened (sound : before.disk.Sound)
    (call : FileCall env "fs.open" [.string path, .string "w"] before
      (.ok (.finished (.ofHandle handle))) after) :
    env.services.files = true ∧ (env.resolvePath path).toList.contains '\x00' = false ∧
      Stands after handle (env.resolvePath path) .write 0 [] := by
  obtain ⟨between, meanwhile, ran⟩ := call
  rw [callByName_open] at ran
  obtain ⟨served, next, files, disk, done, same, rfl⟩ := exists_of_filesAnswer ran
  have parsed : Disk.OpenMode.ofText "w" = .ok .write := rfl
  obtain ⟨noNul, file, opened, opens, rfl, rfl, rfl⟩ :=
    (FileService.openPath_eq_ok_iff parsed meanwhile.works).mp done
  obtain ⟨node, rfl, holds⟩ := Disk.holdsAt_openFile (sound.of_nodes meanwhile.nodes).sound opens
  obtain rfl := eq_of_ofHandle_eq (Progress.finished.inj same)
  exact ⟨served, noNul, opened.openings.size, node, Table.get?_store ..,
    opened.getElem?_addOpening _, holds.of_nodes rfl⟩

/-- A count that does not fit is reported as a smaller one. -/
private theorem toInt_ofNat_le (count : Nat) : (Int64.ofNat count).toInt ≤ count := by
  rw [Int64.toInt_ofNat', Int64.size, Int.bmod_def]
  split <;> omega

private theorem Stands.write {count : Int64} (served : env.services.files = true)
    (stands : Stands before handle path .write content.length content)
    (call : FileCall env "fs.write" [.ofHandle handle, .bytes piece] before
      (.ok (.finished (.int count))) after)
    (covers : (piece.length : Int) ≤ count.toInt) :
    Stands after handle path .write (content ++ piece).length (content ++ piece) := by
  obtain ⟨between, meanwhile, ran⟩ := call
  obtain ⟨opening, node, live, opened, holds⟩ := stands.meanwhile meanwhile
  obtain ⟨taken, disk, within, wrote, holds⟩ := holds.writeFile piece
  let moved : Disk.OpenFile := { node, mode := .write, position := content.length + taken }
  have done : between.files.write between.disk handle piece =
      (.ok taken, between.files, disk.setOpening opening moved) := by
    rw [FileService.write, Table.get_eq_ok_iff.mpr live]
    dsimp only
    rw [Disk.opening_eq opened, wrote, onSystem_ok meanwhile.works]
  rw [callByName_write, filesAnswer_of_ok served done] at ran
  cases ran
  have whole : taken = piece.length :=
    Nat.le_antisymm within (Int.ofNat_le.mp (Int.le_trans covers (toInt_ofNat_le taken)))
  have kept : disk.openings[opening]? =
      some { node, mode := .write, position := content.length } := by
    rw [Disk.openings_writeFile wrote, opened]
  rw [whole, List.take_length] at holds
  refine ⟨opening, node, live, ?_, holds.of_nodes rfl⟩
  rw [List.length_append, ← whole]
  exact Disk.getElem?_setOpening kept moved

private theorem Stands.close (served : env.services.files = true)
    {answer : Except BuiltinError Progress}
    (stands : Stands before handle path mode position content)
    (call : FileCall env "fs.close" [.ofHandle handle] before answer after) :
    answer = .ok (.finished .unit) ∧ ∃ node, after.disk.HoldsAt path node content := by
  obtain ⟨between, meanwhile, ran⟩ := call
  obtain ⟨opening, node, live, opened, holds⟩ := stands.meanwhile meanwhile
  have done : between.files.close between.disk handle =
      (.ok (), { between.files with files := between.files.files.drop handle }, between.disk) := by
    rw [FileService.close, Table.take?_eq_some_iff.mpr ⟨live, rfl⟩]
  rw [callByName_close, filesAnswer, served, done] at ran
  cases ran
  exact ⟨rfl, node, holds⟩

private theorem stands_of_reopened (served : env.services.files = true)
    (noNul : (env.resolvePath path).toList.contains '\x00' = false)
    {node : Disk.NodeId} (holds : before.disk.HoldsAt (env.resolvePath path) node content)
    {answer : Except BuiltinError Progress}
    (call : FileCall env "fs.open" [.string path, .string "r"] before answer after) :
    ∃ handle, answer = .ok (.finished (.ofHandle handle)) ∧
      Stands after handle (env.resolvePath path) .read 0 content := by
  obtain ⟨between, meanwhile, ran⟩ := call
  have still := holds.of_nodes meanwhile.nodes
  have parsed : Disk.OpenMode.ofText "r" = .ok .read := rfl
  have done := (FileService.openPath_eq_ok_iff parsed meanwhile.works).mpr
    ⟨noNul, _, _, still.openFile, rfl, rfl, @rfl _ (between.files.issued _)⟩
  rw [callByName_open, filesAnswer_of_ok served done] at ran
  cases ran
  exact ⟨_, rfl, _, node, Table.get?_store .., between.disk.getElem?_addOpening _,
    still.of_nodes rfl⟩

private theorem Stands.refuse {size : Int64} (served : env.services.files = true)
    {answer : Except BuiltinError Progress}
    (stands : Stands before handle path mode position content) (negative : size.toInt < 0)
    (call : FileCall env "fs.read" [.ofHandle handle, .int size] before answer after) :
    answer = .error (.host (.invalidArgument (.negativeLength size.toInt))) ∧
      Stands after handle path mode position content := by
  obtain ⟨between, meanwhile, ran⟩ := call
  have done : between.files.read between.disk handle size.toInt =
      (.error (.invalidArgument (.negativeLength size.toInt)), between.files, between.disk) := by
    rw [FileService.read, readLimit, if_pos negative]
  rw [callByName_read, filesAnswer, served, done] at ran
  cases ran
  exact ⟨rfl, stands.meanwhile meanwhile⟩

private theorem Stands.read {size : Int64} (served : env.services.files = true)
    {answer : Except BuiltinError Progress}
    (stands : Stands before handle path .read position content) (asks : 0 ≤ size.toInt)
    (call : FileCall env "fs.read" [.ofHandle handle, .int size] before answer after) :
    let part := (content.drop position).take size.toInt.toNat
    answer = .ok (.finished (.bytes part)) ∧
      Stands after handle path .read (position + part.length) content := by
  intro part
  obtain ⟨between, meanwhile, ran⟩ := call
  obtain ⟨opening, node, live, opened, holds⟩ := stands.meanwhile meanwhile
  have limit : readLimit size.toInt = .ok size.toInt.toNat := by
    rw [readLimit, if_neg (Int.not_lt.mpr asks)]
  rw [callByName_read] at ran
  by_cases nothing : size.toInt.toNat = 0
  · have done : between.files.read between.disk handle size.toInt =
        (.ok [], between.files, between.disk) := by
      rw [FileService.read, limit, Table.get_eq_ok_iff.mpr live]
      exact if_pos nothing
    rw [filesAnswer_of_ok served done] at ran
    cases ran
    have empty : part = [] := by rw [← List.take_zero, ← nothing]
    rw [empty]
    exact ⟨rfl, opening, node, live, opened, holds⟩
  · obtain ⟨readGrants, read⟩ := holds.readFile position size.toInt.toNat
    let moved : Disk.OpenFile := { node, mode := .read, position := position + part.length }
    have done : between.files.read between.disk handle size.toInt =
        (.ok part, between.files, { between.disk with readGrants }.setOpening opening moved) := by
      rw [FileService.read, limit, Table.get_eq_ok_iff.mpr live]
      dsimp only
      rw [if_neg nothing, Disk.opening_eq opened, read, onSystem_ok meanwhile.works]
    rw [filesAnswer_of_ok served done] at ran
    cases ran
    have kept : { between.disk with readGrants }.openings[opening]? =
        some { node, mode := .read, position } := opened
    exact ⟨rfl, opening, node, live, Disk.getElem?_setOpening kept moved, holds.of_nodes rfl⟩

/-- A part that is shorter than asked has nothing behind it. -/
private theorem drop_length_take (limit : Nat) (bytes : Bytes) :
    bytes.drop (bytes.take limit).length = bytes.drop limit := by
  rw [List.length_take]
  rcases Nat.le_total limit bytes.length with within | beyond
  · rw [Nat.min_eq_left within]
  · rw [Nat.min_eq_right beyond, List.drop_length, List.drop_of_length_le beyond]

private theorem Stands.portions {calls : List (Int64 × Except BuiltinError Progress)}
    (served : env.services.files = true)
    (stands : Stands before handle path .read position content)
    (reads : ReadsFile env handle before calls) : Portions (content.drop position) calls := by
  induction reads generalizing position with
  | nothing => exact .nothing
  | @read size before answer after calls call _ ih =>
    rcases Int.lt_or_le size.toInt 0 with negative | asks
    · obtain ⟨rfl, stands⟩ := stands.refuse served negative call
      exact .refused negative (ih stands)
    · obtain ⟨rfl, stands⟩ := stands.read served asks call
      have rest := ih stands
      rw [← List.drop_drop, drop_length_take] at rest
      have cut := List.take_append_drop size.toInt.toNat (content.drop position)
      have portions := Portions.read asks (by rw [cut, List.length_take]; omega) rest
      rwa [cut] at portions

private theorem Stands.written (served : env.services.files = true) {data : Bytes}
    (stands : Stands before handle path .write 0 [])
    (writes : WritesFile env handle before data after) :
    Stands after handle path .write data.length data := by
  induction writes with
  | nothing => exact stands
  | write _ call covers ih => exact ih.write served call covers

/-- What was written through a handle to a file that was opened for writing is what every sequence
of reads from the file gives back once it is closed and opened again. -/
theorem readBack_of_written {env : Environment} {path : String} {handle : Handle} {data : Bytes}
    {before opened written closed reopened : World} {closing opening : Except BuiltinError Progress}
    (sound : before.disk.Sound)
    (opens : FileCall env "fs.open" [.string path, .string "w"] before
      (.ok (.finished (.ofHandle handle))) opened)
    (writes : WritesFile env handle opened data written)
    (closes : FileCall env "fs.close" [.ofHandle handle] written closing closed)
    (reopens : FileCall env "fs.open" [.string path, .string "r"] closed opening reopened) :
    closing = .ok (.finished .unit) ∧ ∃ handle', opening = .ok (.finished (.ofHandle handle')) ∧
      ∀ calls, ReadsFile env handle' reopened calls → ReadBack data calls := by
  obtain ⟨served, noNul, stands⟩ := stands_of_opened sound opens
  obtain ⟨rfl, node, holds⟩ := (stands.written served writes).close served closes
  obtain ⟨handle', rfl, stands⟩ := stands_of_reopened served noNul holds reopens
  exact ⟨rfl, handle', rfl, fun calls reads => (stands.portions served reads).readBack⟩

private theorem fileCall_of_ran {name : String} {args : List Value}
    {answer : Except BuiltinError Progress} (works : before.disk.faults = .none)
    (ran : (standardRegistry.callByName name env args).runIn before = (answer, after)) :
    FileCall env name args before answer after := ⟨before, ⟨rfl, rfl, rfl, works⟩, ran⟩

/-- A world with one file. -/
private def oneFile (content : Bytes) (readGrants : List Nat) (openings : Array Disk.OpenFile)
    (files : FileService) : World :=
  { disk :=
      { nodes := #[.directory Disk.root (SortedMap.empty.insert "f" 1), .file content]
        readGrants, openings }
    files }

/-- Two writes, and reads of all kinds from a system that gives single bytes at first. -/
theorem readBack_of_written_three :
    let before : World := { disk := { Disk.empty with readGrants := [1, 1] } }
    let calls : List (Int64 × Except BuiltinError Progress) :=
      [(2, .ok (.finished (.bytes [1, 2]))), (0, .ok (.finished (.bytes []))),
        (-1, .error (.host (.invalidArgument (.negativeLength (-1))))),
        (5, .ok (.finished (.bytes [3])))]
    ∃ handle handle' opened written closed reopened, before.disk.Sound ∧
      FileCall {} "fs.open" [.string "f", .string "w"] before
        (.ok (.finished (.ofHandle handle))) opened ∧
      WritesFile {} handle opened [1, 2, 3] written ∧
      FileCall {} "fs.close" [.ofHandle handle] written (.ok (.finished .unit)) closed ∧
      FileCall {} "fs.open" [.string "f", .string "r"] closed
        (.ok (.finished (.ofHandle handle'))) reopened ∧
      ReadsFile {} handle' reopened calls ∧ ReadBack [1, 2, 3] calls := by
  intro before calls
  let handle : Handle := ⟨1, by decide, by decide⟩
  let handle' : Handle := ⟨2, by decide, by decide⟩
  let path := ({} : Environment).resolvePath "f"
  have noNul : path.toList.contains '\x00' = false := by decide +kernel
  let writing := FileService.issued {} 0
  let shut := { writing with files := writing.files.drop handle }
  let reading := shut.issued 1
  have opens : FileCall {} "fs.open" [.string "f", .string "w"] before
      (.ok (.finished (.ofHandle handle))) (oneFile [] [1, 1] #[⟨1, .write, 0⟩] writing) := by
    have free : before.disk.resolve .create path = .ok (.free Disk.root "f") := by decide +kernel
    have made := Disk.openFile_eq_ok_iff.mpr
      (Disk.Opens.made (rfl : Disk.OpenMode.write.creates = true) free)
    refine fileCall_of_ran rfl ?_
    rw [callByName_open]
    exact filesAnswer_of_ok rfl <| (FileService.openPath_eq_ok_iff rfl rfl).mpr
      ⟨noNul, _, _, made, rfl, rfl, rfl⟩
  have write₁ : FileCall {} "fs.write" [.ofHandle handle, .bytes [1, 2]]
      (oneFile [] [1, 1] #[⟨1, .write, 0⟩] writing) (.ok (.finished (.int 2)))
      (oneFile [1, 2] [1, 1] #[⟨1, .write, 2⟩] writing) :=
    fileCall_of_ran rfl (callByName_write ..)
  have write₂ : FileCall {} "fs.write" [.ofHandle handle, .bytes [3]]
      (oneFile [1, 2] [1, 1] #[⟨1, .write, 2⟩] writing) (.ok (.finished (.int 1)))
      (oneFile [1, 2, 3] [1, 1] #[⟨1, .write, 3⟩] writing) :=
    fileCall_of_ran rfl (callByName_write ..)
  have writes : WritesFile {} handle (oneFile [] [1, 1] #[⟨1, .write, 0⟩] writing) [1, 2, 3]
      (oneFile [1, 2, 3] [1, 1] #[⟨1, .write, 3⟩] writing) :=
    .write (.write .nothing write₁ (by decide)) write₂ (by decide)
  have closes : FileCall {} "fs.close" [.ofHandle handle]
      (oneFile [1, 2, 3] [1, 1] #[⟨1, .write, 3⟩] writing) (.ok (.finished .unit))
      (oneFile [1, 2, 3] [1, 1] #[⟨1, .write, 3⟩] shut) :=
    fileCall_of_ran rfl (callByName_close ..)
  have reopens : FileCall {} "fs.open" [.string "f", .string "r"]
      (oneFile [1, 2, 3] [1, 1] #[⟨1, .write, 3⟩] shut) (.ok (.finished (.ofHandle handle')))
      (oneFile [1, 2, 3] [1, 1] #[⟨1, .write, 3⟩, ⟨1, .read, 0⟩] reading) := by
    have leads : (oneFile [1, 2, 3] [1, 1] #[⟨1, .write, 3⟩] shut).disk.HoldsAt path 1 [1, 2, 3] :=
      ⟨by decide +kernel, by decide, rfl⟩
    refine fileCall_of_ran rfl ?_
    rw [callByName_open]
    exact filesAnswer_of_ok rfl <| (FileService.openPath_eq_ok_iff rfl rfl).mpr
      ⟨noNul, _, _, leads.openFile, rfl, rfl, rfl⟩
  have read₁ : FileCall {} "fs.read" [.ofHandle handle', .int 2]
      (oneFile [1, 2, 3] [1, 1] #[⟨1, .write, 3⟩, ⟨1, .read, 0⟩] reading)
      (.ok (.finished (.bytes [1, 2])))
      (oneFile [1, 2, 3] [] #[⟨1, .write, 3⟩, ⟨1, .read, 2⟩] reading) :=
    fileCall_of_ran rfl (callByName_read ..)
  have read₂ : FileCall {} "fs.read" [.ofHandle handle', .int 0]
      (oneFile [1, 2, 3] [] #[⟨1, .write, 3⟩, ⟨1, .read, 2⟩] reading)
      (.ok (.finished (.bytes [])))
      (oneFile [1, 2, 3] [] #[⟨1, .write, 3⟩, ⟨1, .read, 2⟩] reading) :=
    fileCall_of_ran rfl (callByName_read ..)
  have read₃ : FileCall {} "fs.read" [.ofHandle handle', .int (-1)]
      (oneFile [1, 2, 3] [] #[⟨1, .write, 3⟩, ⟨1, .read, 2⟩] reading)
      (.error (.host (.invalidArgument (.negativeLength (-1)))))
      (oneFile [1, 2, 3] [] #[⟨1, .write, 3⟩, ⟨1, .read, 2⟩] reading) :=
    fileCall_of_ran rfl (callByName_read ..)
  have read₄ : FileCall {} "fs.read" [.ofHandle handle', .int 5]
      (oneFile [1, 2, 3] [] #[⟨1, .write, 3⟩, ⟨1, .read, 2⟩] reading)
      (.ok (.finished (.bytes [3])))
      (oneFile [1, 2, 3] [] #[⟨1, .write, 3⟩, ⟨1, .read, 3⟩] reading) :=
    fileCall_of_ran rfl (callByName_read ..)
  have reads : ReadsFile {} handle'
      (oneFile [1, 2, 3] [1, 1] #[⟨1, .write, 3⟩, ⟨1, .read, 0⟩] reading) calls :=
    .read read₁ (.read read₂ (.read read₃ (.read read₄ .nothing)))
  have follows : Disk.empty.Follows before.disk := Disk.sound_empty.of_nodes rfl
  obtain ⟨_, _, same, back⟩ := readBack_of_written follows.sound opens writes closes reopens
  obtain rfl := eq_of_ofHandle_eq (Progress.finished.inj (Except.ok.inj same))
  exact ⟨handle, handle', _, _, _, _, follows.sound, opens, writes, closes, reopens, reads,
    back calls reads⟩

end ScriptHost
