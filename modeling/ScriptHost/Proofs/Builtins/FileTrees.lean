import ScriptHost.Proofs.Builtins.FileCalls

/-! The builtins on files keep the tree sound and every open file in it, whether they fail or not. -/
namespace ScriptHost

open Builtins

/-- The tree stands, and every handle is of an opening of one of its nodes. -/
structure FilesStand (files : Table Disk.OpeningId) (disk : Disk) : Prop where
  tree : disk.Sound
  opened {handle : Handle} {opening : Disk.OpeningId} : files.get? handle = some opening →
    ∃ file, disk.openings[opening]? = some file ∧ disk.Opened file

/-- What the files come to stands. -/
def StandsAfter (_ : α) (after : World) : Prop := FilesStand after.files.files after.disk

/-- A builtin that keeps files standing. -/
def Builtin.KeepsFiles (builtin : Builtin) : Prop :=
  ∀ env args (before : World), FilesStand before.files.files before.disk →
    Ends (builtin.run env args) before StandsAfter StandsAfter

namespace FilesStand

variable {files : Table Disk.OpeningId} {disk disk' : Disk} {handle : Handle}
  {opening : Disk.OpeningId} {file file' : Disk.OpenFile}

/-- A tree that grew, with the openings that there were. -/
theorem of_follows (stand : FilesStand files disk) (follows : disk.Follows disk')
    (same : disk'.openings = disk.openings) : FilesStand files disk' := by
  refine ⟨follows.sound, fun held => ?_⟩
  obtain ⟨file, kept, opened⟩ := stand.opened held
  exact ⟨file, by rw [same, kept], opened.of_follows follows⟩

theorem store (stand : FilesStand files disk) (opened : disk.Opened file) :
    FilesStand (files.store handle disk.openings.size) (disk.addOpening file).2 := by
  have follows : disk.Follows (disk.addOpening file).2 := stand.tree.of_nodes rfl
  refine ⟨follows.sound, fun {other opening} held => ?_⟩
  by_cases same : other = handle
  · rw [same, Table.get?_store] at held
    cases held
    exact ⟨file, disk.getElem?_addOpening file, opened.of_follows follows⟩
  · rw [Table.get?_store_of_ne same] at held
    obtain ⟨file', kept, opened'⟩ := stand.opened held
    obtain ⟨within, _⟩ := Array.getElem?_eq_some_iff.mp kept
    refine ⟨file', ?_, opened'.of_follows follows⟩
    rw [Disk.addOpening, Array.getElem?_push_lt within, ← Array.getElem?_eq_getElem within, kept]

/-- An opening that was moved. -/
theorem setOpening (stand : FilesStand files disk) (opened : disk.Opened file) :
    FilesStand files (disk.setOpening opening file) := by
  have follows : disk.Follows (disk.setOpening opening file) := stand.tree.of_nodes rfl
  refine ⟨follows.sound, fun {_ other} held => ?_⟩
  obtain ⟨file', kept, opened'⟩ := stand.opened held
  by_cases same : opening = other
  · subst same
    exact ⟨file, Disk.getElem?_setOpening kept file, opened.of_follows follows⟩
  · refine ⟨file', ?_, opened'.of_follows follows⟩
    rw [Disk.setOpening, Array.getElem?_setIfInBounds_ne same, kept]

theorem drop (stand : FilesStand files disk) : FilesStand (files.drop handle) disk := by
  refine ⟨stand.tree, fun {other _} held => ?_⟩
  by_cases same : other = handle
  · rw [same, Table.get?_drop] at held
    cases held
  · rw [Table.get?_drop_of_ne same] at held
    exact stand.opened held

end FilesStand

namespace FileService

variable {service service' : FileService} {disk disk' : Disk} {handle : Handle}

/-! Every operation leaves files standing, whether it fails or not. -/

theorem filesStand_openPath {path mode : String} {outcome : Except HostError Handle}
    (stand : FilesStand service.files disk)
    (opened : service.openPath disk path mode = (outcome, service', disk')) :
    FilesStand service'.files disk' := by
  rw [openPath] at opened
  split at opened
  · cases opened
    exact stand
  · split at opened
    · cases opened
      exact stand
    · rename_i ran
      cases opened
      have opens := step_of_onPath ran
      obtain ⟨follows, opened⟩ := stand.tree.openFile opens
      exact (stand.of_follows follows (Disk.openings_openFile opens)).store opened

theorem filesStand_read {count : Int} {outcome : Except HostError Bytes}
    (stand : FilesStand service.files disk)
    (read : service.read disk handle count = (outcome, service', disk')) :
    FilesStand service'.files disk' := by
  rw [FileService.read] at read
  split at read
  · cases read
    exact stand
  · split at read
    · cases read
      exact stand
    · rename_i opening held
      obtain ⟨file, kept, opened⟩ := stand.opened (Table.get_eq_ok_iff.mp held)
      dsimp only at read
      rw [Disk.opening_eq kept] at read
      split at read
      · cases read
        exact stand
      · split at read
        · cases read
          exact stand.setOpening (opened.cutShort _)
        · rename_i ran
          cases read
          have reads := step_of_onSystem ran
          obtain ⟨follows, moved⟩ := stand.tree.readFile opened reads
          exact (stand.of_follows follows (Disk.openings_readFile reads)).setOpening moved

theorem filesStand_write {data : Bytes} {outcome : Except HostError Nat}
    (stand : FilesStand service.files disk)
    (wrote : service.write disk handle data = (outcome, service', disk')) :
    FilesStand service'.files disk' := by
  rw [FileService.write] at wrote
  split at wrote
  · cases wrote
    exact stand
  · rename_i opening held
    obtain ⟨file, kept, opened⟩ := stand.opened (Table.get_eq_ok_iff.mp held)
    rw [Disk.opening_eq kept] at wrote
    split at wrote
    · cases wrote
      exact stand
    · rename_i ran
      cases wrote
      have writes := step_of_onSystem ran
      obtain ⟨follows, moved⟩ := stand.tree.writeFile opened writes
      exact (stand.of_follows follows (Disk.openings_writeFile writes)).setOpening moved

theorem filesStand_close {outcome : Except HostError Unit} (stand : FilesStand service.files disk)
    (closed : service.close disk handle = (outcome, service', disk')) :
    FilesStand service'.files disk' := by
  rw [close] at closed
  split at closed
  · rename_i taken
    obtain ⟨_, rfl⟩ := Table.take?_eq_some_iff.mp taken
    cases closed
    exact stand.drop
  · cases closed
    exact stand

end FileService

namespace Disk

variable {disk disk' : Disk} {path : String}

theorem Sound.makePath (sound : disk.Sound) (made : disk.makePath path = (outcome, disk')) :
    disk.Follows disk' ∧ disk'.openings = disk.openings := by
  rw [Disk.makePath] at made
  split at made
  · cases made
    exact ⟨sound.of_nodes rfl, rfl⟩
  · rename_i ran
    cases made
    have makes := step_of_onPath ran
    exact ⟨sound.makeDirectory makes, openings_makeDirectory makes⟩

theorem Sound.removePath (sound : disk.Sound) (removed : disk.removePath path = (outcome, disk')) :
    disk.Follows disk' ∧ disk'.openings = disk.openings := by
  rw [Disk.removePath] at removed
  split at removed
  · cases removed
    exact ⟨sound.of_nodes rfl, rfl⟩
  · rename_i ran
    cases removed
    have removes := step_of_onPath ran
    split at removes
    · cases removes
    · split at removes
      · exact ⟨sound.removeDirectory removes, openings_removeDirectory removes⟩
      · exact ⟨sound.removeFile removes, openings_removeFile removes⟩

end Disk

namespace Builtins.Files

section

variable {before : World}

private theorem ends_keeping {use : FileService → Disk → Except HostError α × FileService × Disk}
    {value : α → Progress}
    (keeps : ∀ {outcome files disk}, use before.files before.disk = (outcome, files, disk) →
      FilesStand files.files disk) :
    Ends (step use >>= fun result => pure (value result)) before StandsAfter StandsAfter :=
  ends_tryStep (fun _ _ _ failed => keeps failed) fun _ _ _ done => keeps done

end

theorem keepsFiles_openFile : openFile.KeepsFiles := by
  intro env args before stand
  apply ends_check fun _ => stand
  intro path _
  apply ends_need fun _ => stand
  apply ends_check fun _ => stand
  intro mode _
  exact ends_keeping (FileService.filesStand_openPath stand)

theorem keepsFiles_read : read.KeepsFiles := by
  intro env args before stand
  apply ends_check fun _ => stand
  intro handle _
  apply ends_need fun _ => stand
  apply ends_check fun _ => stand
  intro count _
  exact ends_keeping (FileService.filesStand_read stand)

theorem keepsFiles_write : write.KeepsFiles := by
  intro env args before stand
  apply ends_check fun _ => stand
  intro handle _
  apply ends_need fun _ => stand
  apply ends_check fun _ => stand
  intro data _
  exact ends_keeping (FileService.filesStand_write stand)

theorem keepsFiles_close : close.KeepsFiles := by
  intro env args before stand
  apply ends_need fun _ => stand
  apply ends_check fun _ => stand
  intro handle _
  exact ends_keeping (FileService.filesStand_close stand)

theorem keepsFiles_pathExists : pathExists.KeepsFiles := by
  intro env args before stand
  apply ends_check fun _ => stand
  intro path _
  apply ends_need fun _ => stand
  apply ends_look
  apply ends_hostCheck fun _ => stand
  intro found _
  exact stand

theorem keepsFiles_remove : remove.KeepsFiles := by
  intro env args before stand
  apply ends_check fun _ => stand
  intro path _
  apply ends_need fun _ => stand
  apply ends_diskStep (Disk.atomic_removePath ..) fun _ => stand
  intro disk removed
  obtain ⟨follows, same⟩ := stand.tree.removePath removed
  exact stand.of_follows follows same

theorem keepsFiles_makeDirectory : makeDirectory.KeepsFiles := by
  intro env args before stand
  apply ends_check fun _ => stand
  intro path _
  apply ends_need fun _ => stand
  apply ends_diskStep (Disk.atomic_makePath ..) fun _ => stand
  intro disk made
  obtain ⟨follows, same⟩ := stand.tree.makePath made
  exact stand.of_follows follows same

/-- No call of a builtin on files, whether it fails or not, leaves a tree that does not stand. -/
theorem keepsFiles_all : ∀ builtin ∈ all, builtin.KeepsFiles := by
  simp only [all, List.forall_mem_cons]
  exact ⟨keepsFiles_openFile, keepsFiles_read, keepsFiles_write, keepsFiles_close,
    keepsFiles_pathExists, keepsFiles_remove, keepsFiles_makeDirectory,
    fun _ _ _ stand => stand, List.forall_mem_nil _⟩

end Builtins.Files

/-- However the builtins on files are called in a new world, its tree stands. -/
theorem filesStand_of_calls (env : Environment) {calls : List (Builtin × List Value)}
    (onFiles : ∀ call ∈ calls, call.1 ∈ Files.all) :
    let after := calls.foldl (fun world call => ((call.1.run env call.2).runIn world).2) ({} : World)
    FilesStand after.files.files after.disk := by
  have stepwise (world : World) (stand : FilesStand world.files.files world.disk) :
      let after := calls.foldl (fun world call => ((call.1.run env call.2).runIn world).2) world
      FilesStand after.files.files after.disk := by
    induction calls generalizing world with
    | nil => exact stand
    | cons call rest ih =>
      obtain ⟨here, behind⟩ := List.forall_mem_cons.mp onFiles
      refine ih behind ((call.1.run env call.2).runIn world).2 ?_
      have ends := Files.keepsFiles_all call.1 here env call.2 world stand
      rw [Ends] at ends
      split at ends
      · rename_i ran
        rwa [Action.runIn, ran]
      · rename_i ran
        rwa [Action.runIn, ran]
  refine stepwise {} ⟨Disk.sound_empty, fun held => ?_⟩
  cases held

end ScriptHost
