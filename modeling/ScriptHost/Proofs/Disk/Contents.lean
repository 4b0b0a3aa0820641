import ScriptHost.Proofs.Disk.Soundness

/-! What files hold. Bytes that are written at the end come back however the system splits reads,
and the path of a file that was opened for writing leads to it. -/
namespace ScriptHost.Disk

/-- What opening a path gives and does to the tree. -/
inductive Opens (disk : Disk) (path : String) (mode : OpenMode) : OpenFile → Disk → Prop where
  | made (creates : mode.creates = true)
      (free : disk.resolve .create path = .ok (.free directory name)) :
      Opens disk path mode { node := disk.nodes.size, mode }
        (disk.addNode directory name (.file [])).2
  | truncated {id : NodeId} (found : disk.resolve .create path = .ok (.node id))
      (noDirectory : disk.isDirectory id = false) (truncates : mode.truncates = true) :
      Opens disk path mode { node := id, mode } (disk.setNode id (.file []))
  | kept {id : NodeId}
      (found : disk.resolve (if mode.creates then .create else .follow) path = .ok (.node id))
      (plain : disk.isDirectory id = true → mode.writes = false)
      (keeps : mode.truncates = false) :
      Opens disk path mode { node := id, mode } disk

/-- An opening of a node that is there, and that is no directory if it can be written to. -/
structure Opened (disk : Disk) (file : OpenFile) : Prop where
  within : file.node < disk.nodes.size
  plain : file.mode.writes = true → disk.isDirectory file.node = false

/-- A path leads to a file with a content. -/
structure HoldsAt (disk : Disk) (path : String) (id : NodeId) (content : Bytes) : Prop where
  leads : disk.resolve .follow path = .ok (.node id)
  within : id < disk.nodes.size
  file : disk.node id = .file content

variable {disk disk' : Disk} {path : String} {mode : OpenMode} {file file' : OpenFile} {id : NodeId}
  {content data : Bytes}

theorem openFile_eq_ok_iff :
    disk.openFile path mode = .ok (file, disk') ↔ Opens disk path mode file disk' := by
  constructor
  · intro opened
    rw [openFile] at opened
    split at opened
    · cases opened
    · rename_i free
      split at opened
      · rename_i creates
        rw [if_pos creates] at free
        cases opened
        exact .made creates free
      · cases opened
    · rename_i node found
      split at opened
      · split at opened
        · cases opened
        · rename_i isDirectory noWrites
          cases opened
          have keeps : mode.truncates = false := by cases mode <;> trivial
          exact .kept found (fun _ => by simpa using noWrites) keeps
      · rename_i noDirectory
        cases opened
        split
        · rename_i truncates
          have creates : mode.creates = true := by cases mode <;> trivial
          rw [if_pos creates] at found
          exact .truncated found (by simpa using noDirectory) truncates
        · rename_i keeps
          exact .kept found (fun isDirectory => absurd isDirectory noDirectory)
            (by simpa using keeps)
  · intro opens
    cases opens with
    | made creates free =>
      rw [openFile, if_pos creates, free]
      simp only [creates, if_true]
      rfl
    | truncated found noDirectory truncates =>
      have creates : mode.creates = true := by cases mode <;> trivial
      rw [openFile, if_pos creates, found]
      simp [noDirectory, truncates]
    | @kept id found plain keeps =>
      rw [openFile, found]
      cases isDirectory : disk.isDirectory id with
      | false => simp [isDirectory, keeps]
      | true => simp [isDirectory, plain isDirectory]

theorem Opened.of_follows (opened : disk.Opened file) (follows : Follows disk disk') :
    disk'.Opened file :=
  ⟨Nat.lt_of_lt_of_le opened.within follows.size,
    fun writes => (follows.directories opened.within).trans (opened.plain writes)⟩

theorem Opened.moved (opened : disk.Opened file) (position : Nat) :
    disk.Opened { file with position } := ⟨opened.within, opened.plain⟩

theorem Sound.openFile (sound : disk.Sound) (opened : disk.openFile path mode = .ok (file, disk')) :
    Follows disk disk' ∧ disk'.Opened file := by
  cases openFile_eq_ok_iff.mp opened with
  | made _ free =>
    cases there_of_resolve sound free (by decide) with
    | free inside =>
      have within := lt_size_of_inside inside
      refine ⟨sound.addNode _ _ nofun, ?_, fun _ => ?_⟩
      · rw [size_addNode]
        exact Nat.lt_succ_self _
      · rw [isDirectory, node_addNode inside, if_neg (Nat.ne_of_gt within), if_pos rfl]
  | truncated found noDirectory =>
    cases there_of_resolve sound found (by decide) with
    | node within =>
      have follows := sound.setFile noDirectory []
      exact ⟨follows, Nat.lt_of_lt_of_le within follows.size,
        fun _ => (follows.directories within).trans noDirectory⟩
  | kept found plain =>
    cases there_of_resolve sound found (by split <;> decide) with
    | node within =>
      refine ⟨sound.of_nodes rfl, within, fun writes => Bool.eq_false_iff.mpr fun isDirectory => ?_⟩
      rw [plain isDirectory] at writes
      cases writes

theorem Sound.writeFile {count : Nat} (sound : disk.Sound) (opened : disk.Opened file)
    (written : disk.writeFile file data = .ok (count, file', disk')) :
    Follows disk disk' ∧ disk'.Opened file' := by
  rw [Disk.writeFile] at written
  split at written
  · cases written
  · rename_i writes
    have noDirectory := opened.plain (by simpa using writes)
    split at written
    · cases written
      exact ⟨sound.of_nodes rfl, opened⟩
    · cases written
      have taken : Follows disk { disk with writeGrants := disk.writeGrants.tail } :=
        sound.of_nodes rfl
      have follows (content : Bytes) := taken.trans (taken.sound.setFile noDirectory content)
      exact ⟨follows _, (opened.moved _).of_follows (follows _)⟩

theorem Opened.of_read {limit : Nat} (opened : disk.Opened file)
    (read : disk.readFile file limit = .ok (data, file', disk')) : disk.Opened file' := by
  rw [Disk.readFile] at read
  split at read
  · cases read
  · split at read <;> cases read
    exact opened.moved _

theorem Sound.readFile {limit : Nat} (sound : disk.Sound) (opened : disk.Opened file)
    (read : disk.readFile file limit = .ok (data, file', disk')) :
    Follows disk disk' ∧ disk'.Opened file' := by
  have opened' := opened.of_read read
  rw [Disk.readFile] at read
  split at read
  · cases read
  · split at read <;> cases read
    exact ⟨sound.of_nodes rfl, opened'.of_follows (sound.of_nodes rfl)⟩

/-! The openings that a disk keeps. -/

theorem opening_eq {opening : OpeningId} (kept : disk.openings[opening]? = some file) :
    disk.opening opening = file := by
  rw [Disk.opening, Array.getD_eq_getD_getElem?, kept, Option.getD_some]

theorem getElem?_addOpening (disk : Disk) (file : OpenFile) :
    (disk.addOpening file).2.openings[disk.openings.size]? = some file := Array.getElem?_push_size

theorem getElem?_setOpening {opening : OpeningId} (kept : disk.openings[opening]? = some file)
    (file' : OpenFile) : (disk.setOpening opening file').openings[opening]? = some file' := by
  obtain ⟨within, _⟩ := Array.getElem?_eq_some_iff.mp kept
  rw [setOpening, Array.getElem?_setIfInBounds, if_pos rfl, if_pos within]

/-! Nothing but its own opening is moved by an operation. -/

theorem openings_setEntry (disk : Disk) (directory : NodeId) (name : String) (id : NodeId) :
    (disk.setEntry directory name id).openings = disk.openings := by
  rw [setEntry]
  split <;> rfl

theorem openings_dropEntry (disk : Disk) (directory : NodeId) (name : String) :
    (disk.dropEntry directory name).openings = disk.openings := by
  rw [dropEntry]
  split <;> rfl

theorem openings_openFile (opened : disk.openFile path mode = .ok (file, disk')) :
    disk'.openings = disk.openings := by
  cases openFile_eq_ok_iff.mp opened with
  | made => exact openings_setEntry ..
  | truncated | kept => rfl

theorem openings_readFile {limit : Nat}
    (read : disk.readFile file limit = .ok (data, file', disk')) :
    disk'.openings = disk.openings := by
  rw [readFile] at read
  split at read
  · cases read
  · split at read <;> cases read
    rfl

theorem openings_writeFile {count : Nat}
    (written : disk.writeFile file data = .ok (count, file', disk')) :
    disk'.openings = disk.openings := by
  rw [writeFile] at written
  split at written
  · cases written
  · split at written <;> cases written <;> rfl

theorem openings_makeDirectory (made : disk.makeDirectory path = .ok disk') :
    disk'.openings = disk.openings := by
  rw [makeDirectory] at made
  split at made
  · cases made
  · split at made <;> cases made
    exact openings_setEntry ..
  · cases made

theorem openings_removeDirectory (removed : disk.removeDirectory path = .ok disk') :
    disk'.openings = disk.openings := by
  rw [removeDirectory] at removed
  split at removed
  · cases removed
  · cases removed
  · cases removed
  · cases removed
  · split at removed
    · cases removed
    · split at removed
      · cases removed
      · split at removed <;> cases removed
        exact openings_dropEntry ..

theorem openings_removeFile (removed : disk.removeFile path = .ok disk') :
    disk'.openings = disk.openings := by
  rw [removeFile] at removed
  split at removed
  · cases removed
  · split at removed
    · cases removed
    · split at removed <;> cases removed
      exact openings_dropEntry ..
  · cases removed

/-- An opening that was cut short is still one of its node. -/
theorem Opened.cutShort (opened : disk.Opened file) (limit : Nat) :
    disk.Opened (disk.cutShort file limit) := by
  rw [Disk.cutShort]
  split
  · rename_i read
    exact opened.of_read read
  · exact opened

namespace HoldsAt

theorem noDirectory (holds : disk.HoldsAt path id content) : disk.isDirectory id = false := by
  rw [isDirectory, holds.file]

theorem content_eq (holds : disk.HoldsAt path id content) : disk.content id = content := by
  rw [Disk.content, holds.file]

theorem of_nodes (holds : disk.HoldsAt path id content) (same : disk'.nodes = disk.nodes) :
    disk'.HoldsAt path id content := by
  refine ⟨resolve_becomes (.of_nodes same) holds.leads (by decide) .kept, same ▸ holds.within, ?_⟩
  rw [node_of_nodes same, holds.file]

/-- Whatever a file holds, its path leads to it. -/
theorem setNode (holds : disk.HoldsAt path id content) (data : Bytes) :
    (disk.setNode id (.file data)).HoldsAt path id data := by
  have changed := changed_setNode holds.within (.file data)
  have plain : disk.NoLink id := by
    intro target link
    rw [holds.file] at link
    cases link
  refine ⟨?_, Nat.lt_of_lt_of_le holds.within changed.size, (changed.nodes id).trans (if_pos rfl)⟩
  have keeps := changed.keeps_of_file plain holds.noDirectory
  exact resolve_becomes keeps holds.leads (by decide) .kept

end HoldsAt

/-- A file that is opened for writing is empty, and its path leads to it. -/
theorem holdsAt_openFile (sound : disk.Sound)
    (opened : disk.openFile path .write = .ok (file, disk')) :
    ∃ id, file = { node := id, mode := .write } ∧ disk'.HoldsAt path id [] := by
  cases openFile_eq_ok_iff.mp opened with
  | made _ free =>
    cases there_of_resolve sound free (by decide) with
    | free inside missing =>
      have within := lt_size_of_inside inside
      have keeps := keeps_addNode inside missing []
      have leads := resolve_becomes keeps free (by decide) (becomes_addNode inside [])
      refine ⟨disk.nodes.size, rfl, leads, ?_, ?_⟩
      · rw [size_addNode]
        exact Nat.lt_succ_self _
      · rw [node_addNode inside, if_neg (Nat.ne_of_gt within), if_pos rfl]
  | @truncated id found noDirectory =>
    cases there_of_resolve sound found (by decide) with
    | node within plain =>
      cases node : disk.node id with
      | file content =>
        have leads := resolve_becomes (.of_nodes rfl) found (by decide) .kept
        have holds : disk.HoldsAt path id content := ⟨leads, within, node⟩
        exact ⟨id, rfl, holds.setNode []⟩
      | directory =>
        rw [isDirectory_of_inside node] at noDirectory
        cases noDirectory
      | link target => exact absurd node (plain target)
  | kept _ _ keeps => cases keeps

theorem HoldsAt.openFile (holds : disk.HoldsAt path id content) :
    disk.openFile path .read = .ok ({ node := id, mode := .read }, disk) :=
  openFile_eq_ok_iff.mpr (.kept holds.leads (fun _ => rfl) rfl)

theorem readUpTo_fst (grants : List Nat) (limit : Nat) (bytes : Bytes) :
    (readUpTo grants limit bytes).1 = bytes.take limit := by
  fun_induction readUpTo grants limit bytes with
  | case1 => rfl
  | case2 => simp
  | case3 => rfl
  | case4 limit bytes grant grants _ _ step more left rest ih =>
    rw [rest] at ih
    have whole : step + (limit - step) = limit := Nat.add_sub_cancel' (Nat.min_le_left _ _)
    rw [← whole, List.take_add, ← ih]

theorem overwrite_end (content data : Bytes) :
    overwrite content content.length data = content ++ data := by
  simp [overwrite]

/-- A write at the end of a file takes some first bytes and puts them behind the content. -/
theorem HoldsAt.writeFile (holds : disk.HoldsAt path id content) (data : Bytes) :
    ∃ (count : Nat) (disk' : Disk), count ≤ data.length ∧
      disk.writeFile { node := id, mode := .write, position := content.length } data =
        .ok (count, { node := id, mode := .write, position := content.length + count }, disk') ∧
      disk'.HoldsAt path id (content ++ data.take count) := by
  rw [Disk.writeFile, if_neg nofun]
  split
  · rename_i empty
    rw [List.isEmpty_iff.mp empty]
    exact ⟨0, disk, Nat.le_refl 0, rfl, by simpa using holds⟩
  · let stored := data.take (granted disk.writeGrants data.length)
    let disk' := { disk with writeGrants := disk.writeGrants.tail }
    have first : stored <+: data := List.take_prefix _ _
    have written : overwrite (disk.content id) content.length stored =
        content ++ data.take stored.length := by
      rw [holds.content_eq, overwrite_end, ← List.prefix_iff_eq_take.mp first]
    refine ⟨stored.length, disk'.setNode id (.file (content ++ data.take stored.length)),
      first.length_le, ?_, ?_⟩
    · rw [← written]
      rfl
    · have still : disk'.HoldsAt path id content := holds.of_nodes rfl
      exact still.setNode _

/-- A read gives all bytes up to its limit or the end. -/
theorem HoldsAt.readFile (holds : disk.HoldsAt path id content) (position limit : Nat) :
    let part := (content.drop position).take limit
    ∃ readGrants, disk.readFile { node := id, mode := .read, position } limit =
      .ok (part, { node := id, mode := .read, position := position + part.length },
        { disk with readGrants }) := by
  intro part
  rw [Disk.readFile, if_neg nofun, holds.noDirectory, holds.content_eq]
  have bytes : part = (readUpTo disk.readGrants limit (content.drop position)).1 :=
    (readUpTo_fst ..).symm
  rw [bytes]
  exact ⟨_, rfl⟩

end ScriptHost.Disk
