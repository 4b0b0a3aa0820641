import ScriptHost.Proofs.Builtins.Standard
import ScriptHost.Proofs.Disk.Contents

/-! Calls of the builtins on open files come down to the file service. -/
namespace ScriptHost

open Builtins

/-- The answer to a call that uses the files, and the world after it. -/
def filesAnswer (env : Environment)
    (use : FileService → Disk → Except HostError α × FileService × Disk) (value : α → Value)
    (world : World) : Except BuiltinError Progress × World :=
  match env.services.files, use world.files world.disk with
  | false, _ => (.error (.host (.missingService .filesystem)), world)
  | true, (.error error, files, disk) => (.error (.host error), { world with files, disk })
  | true, (.ok result, files, disk) =>
    (.ok (.finished (value result)), { world with files, disk })

section

variable {env : Environment} {use : FileService → Disk → Except HostError α × FileService × Disk}
  {value : α → Value} {world after : World}

theorem filesAnswer_of_ok {result : α} {files : FileService} {disk : Disk}
    (served : env.services.files = true)
    (done : use world.files world.disk = (.ok result, files, disk)) :
    filesAnswer env use value world =
      (.ok (.finished (value result)), { world with files, disk }) := by
  rw [filesAnswer, served, done]

theorem exists_of_filesAnswer {progress : Progress}
    (answered : filesAnswer env use value world = (.ok progress, after)) :
    env.services.files = true ∧ ∃ result files disk,
      use world.files world.disk = (.ok result, files, disk) ∧
        progress = .finished (value result) ∧ after = { world with files, disk } := by
  rw [filesAnswer] at answered
  split at answered
  · cases answered
  · cases answered
  · rename_i served done
    cases answered
    exact ⟨served, _, _, _, done, rfl, rfl⟩

end

/-! The calls one by one. -/

section

variable (env : Environment) (world : World)

private theorem run_step (use : FileService → Disk → Except HostError α × FileService × Disk)
    (value : α → Value) :
    (do
      Action.need env.services.files .filesystem
      let result ← Files.step use
      return .finished (value result) : Action Progress).runIn world =
      filesAnswer env use value world := by
  cases served : env.services.files with
  | false =>
    rw [filesAnswer, served]
    rfl
  | true =>
    refine Ends.run_eq (Files.ends_tryStep (fun error files disk failed => ?_)
      fun result files disk done => ?_)
    · rw [filesAnswer, served, failed]
    · rw [ends_pure, filesAnswer, served, done]

variable (handle : Handle)

private theorem handle_ofHandle (rest : List Value) :
    Args.handle (.ofHandle handle :: rest) 0 = .ok handle := by
  simp [Args.handle, Args.bytes, Args.any, Value.ofHandle, Handle.ofBytes_toBytes]

/-- The bytes that carry a handle carry no other. -/
theorem eq_of_ofHandle_eq {handle other : Handle}
    (same : Value.ofHandle handle = Value.ofHandle other) : handle = other := by
  have read := handle_ofHandle handle []
  rw [same, handle_ofHandle] at read
  exact (Except.ok.inj read).symm

private theorem run_onHandle
    (use : Handle → FileService → Disk → Except HostError α × FileService × Disk)
    (value : α → Value) (rest : List Value) :
    (do
      let handle ← Action.ofExcept (Args.handle (.ofHandle handle :: rest) 0)
      Action.need env.services.files .filesystem
      let result ← Files.step (use handle)
      return .finished (value result) : Action Progress).runIn world =
      filesAnswer env (use handle) value world := by
  rw [handle_ofHandle]
  exact run_step env world (use handle) value

theorem callByName_open (path mode : String) :
    (standardRegistry.callByName "fs.open" env [.string path, .string mode]).runIn world =
      filesAnswer env (fun files disk => files.openPath disk (env.resolvePath path) mode)
        .ofHandle world := by
  have member : Files.openFile ∈ standardBuiltins := by simp [standardBuiltins, Files.all]
  have named : standardRegistry.callByName "fs.open" env [.string path, .string mode] =
      Files.openFile.run env [.string path, .string mode] := callByName_standard member rfl rfl env
  rw [named]
  exact run_step env world (fun files disk => files.openPath disk (env.resolvePath path) mode) _

theorem callByName_write (data : Bytes) :
    (standardRegistry.callByName "fs.write" env [.ofHandle handle, .bytes data]).runIn world =
      filesAnswer env (fun files disk => files.write disk handle data) .ofNat world := by
  have member : Files.write ∈ standardBuiltins := by simp [standardBuiltins, Files.all]
  have named : standardRegistry.callByName "fs.write" env [.ofHandle handle, .bytes data] =
      Files.write.run env [.ofHandle handle, .bytes data] := callByName_standard member rfl rfl env
  rw [named]
  exact run_onHandle env world handle
    (fun handle files disk => files.write disk handle data) _ _

theorem callByName_read (size : Int64) :
    (standardRegistry.callByName "fs.read" env [.ofHandle handle, .int size]).runIn world =
      filesAnswer env (fun files disk => files.read disk handle size.toInt) .bytes world := by
  have member : Files.read ∈ standardBuiltins := by simp [standardBuiltins, Files.all]
  have named : standardRegistry.callByName "fs.read" env [.ofHandle handle, .int size] =
      Files.read.run env [.ofHandle handle, .int size] := callByName_standard member rfl rfl env
  rw [named]
  exact run_onHandle env world handle
    (fun handle files disk => files.read disk handle size.toInt) _ _

theorem callByName_close :
    (standardRegistry.callByName "fs.close" env [.ofHandle handle]).runIn world =
      filesAnswer env (fun files disk => files.close disk handle) (fun _ => .unit) world := by
  have member : Files.close ∈ standardBuiltins := by simp [standardBuiltins, Files.all]
  have named : standardRegistry.callByName "fs.close" env [.ofHandle handle] =
      Files.close.run env [.ofHandle handle] := callByName_standard member rfl rfl env
  have run : Files.close.run env [.ofHandle handle] = (do
      Action.need env.services.files .filesystem
      let handle ← Action.ofExcept (Args.handle [.ofHandle handle] 0)
      Files.step fun files disk => files.close disk handle
      return .finished .unit : Action Progress) := rfl
  rw [named, run, handle_ofHandle]
  exact run_step env world (fun files disk => files.close disk handle) fun _ => .unit

end

/-! A step of the system, and that it is taken where the system has no reasons of its own. -/

theorem step_of_onPath {faults : Faults} {operation : Operation} {path : String}
    {step : Except Errno α} {result : α} (done : onPath operation path step faults = .ok result) :
    step = .ok result := by
  rw [onPath] at done
  split at done
  · cases done
  · exact step_of_onSystem done

theorem onSystem_ok {faults : Faults} {operation : Operation} {result : α}
    (works : faults = .none) : onSystem faults operation (.ok result) = .ok result := by
  rw [works]
  rfl

theorem onPath_eq_ok_iff {operation : Operation} {path : String} {step : Except Errno α}
    {result : α} : onPath operation path step .none = .ok result ↔
      path.toList.contains '\x00' = false ∧ step = .ok result := by
  cases nul : path.toList.contains '\x00' with
  | true =>
    rw [onPath, nul]
    simp
  | false =>
    rw [onPath, nul]
    cases step <;> simp [onSystem, Faults.none]

/-- The service after it opened a file, whose handle is the next one. -/
def FileService.issued (service : FileService) (opening : Disk.OpeningId) : FileService :=
  { ids := service.ids.advance, files := service.files.store service.ids.next opening }

theorem FileService.openPath_eq_ok_iff {service service' : FileService} {disk disk' : Disk}
    {handle : Handle} {path text : String} {mode : Disk.OpenMode}
    (parsed : Disk.OpenMode.ofText text = .ok mode) (works : disk.faults = .none) :
    service.openPath disk path text = (.ok handle, service', disk') ↔
      path.toList.contains '\x00' = false ∧ ∃ file between,
        disk.openFile path mode = .ok (file, between) ∧ disk' = (between.addOpening file).2 ∧
        handle = service.ids.next ∧ service' = service.issued between.openings.size := by
  rw [openPath, parsed, works]
  constructor
  · intro opened
    dsimp only at opened
    split at opened
    · cases opened
    · rename_i ran
      obtain ⟨noNul, opens⟩ := onPath_eq_ok_iff.mp ran
      cases opened
      exact ⟨noNul, _, _, opens, rfl, rfl, rfl⟩
  · rintro ⟨noNul, file, between, opened, rfl, rfl, rfl⟩
    have ran : onPath .openFile path (disk.openFile path mode) .none = .ok (file, between) :=
      onPath_eq_ok_iff.mpr ⟨noNul, opened⟩
    dsimp only
    rw [ran]
    rfl

end ScriptHost
