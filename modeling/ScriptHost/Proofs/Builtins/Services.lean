import ScriptHost.Builtins.Files
import ScriptHost.Builtins.Sockets
import ScriptHost.Proofs.Builtins.Waiting
import ScriptHost.Proofs.Resource.Tables

/-! Builtins on files, sockets and HTTP are regular. Answering a request is the exception: the
request is taken even if its answer cannot be sent. -/
namespace ScriptHost

section

variable {before : World} {fails : BuiltinError → World → Prop} {gives : β → World → Prop}

theorem ends_look {next : World → Action β} (rest : Ends (next before) before fails gives) :
    Ends (get >>= next) before fails gives := by
  rwa [ends_bind, ends_get]

/-- An operation of a service that leaves all as it was if it fails. -/
inductive Atomic (before : State) : Except HostError α × State → Prop
  | of_error (error : HostError) : Atomic before (.error error, before)
  | of_ok (result : α) (after : State) : Atomic before (.ok result, after)

theorem Atomic.eq {before after : State} (atomic : Atomic before operation)
    (failed : operation = (.error error, after)) : after = before := by
  cases atomic with
  | of_error error =>
    cases failed
    rfl
  | of_ok result after => cases failed

namespace Builtins

theorem Files.ends_tryStep {next : α → Action β}
    {use : FileService → Disk → Except HostError α × FileService × Disk}
    (failing : ∀ error files disk, use before.files before.disk = (.error error, files, disk) →
      fails (.host error) { before with files, disk })
    (rest : ∀ result files disk, use before.files before.disk = (.ok result, files, disk) →
      Ends (next result) { before with files, disk } fails gives) :
    Ends (Files.step use >>= next) before fails gives :=
  ends_hostStep (fun error (files, disk) => failing error files disk)
    fun result (files, disk) => rest result files disk

theorem Files.ends_step {next : α → Action β}
    {use : FileService → Disk → Except HostError α × FileService × Disk}
    (atomic : Atomic (before.files, before.disk) (use before.files before.disk))
    (spared : ∀ error, fails error before)
    (rest : ∀ result files disk, use before.files before.disk = (.ok result, files, disk) →
      Ends (next result) { before with files, disk } fails gives) :
    Ends (Files.step use >>= next) before fails gives := by
  refine ends_tryStep (fun error files disk failed => ?_) rest
  cases atomic.eq failed
  exact spared (.host error)

theorem Files.ends_diskStep {next : Unit → Action β} {use : Disk → Except HostError Unit × Disk}
    (atomic : Atomic before.disk (use before.disk)) (spared : ∀ error, fails error before)
    (rest : ∀ disk, use before.disk = (.ok (), disk) →
      Ends (next ()) { before with disk } fails gives) :
    Ends (Files.diskStep use >>= next) before fails gives := by
  refine ends_hostStep (fun error disk failed => ?_) fun _ disk => rest disk
  cases atomic.eq failed
  exact spared (.host error)

theorem Sockets.ends_tryStep {next : α → Action β}
    {use : SocketService → Network → Except HostError α × SocketService × Network}
    (failing : ∀ error sockets network,
      use before.sockets before.network = (.error error, sockets, network) →
      fails (.host error) { before with sockets, network })
    (rest : ∀ result sockets network,
      use before.sockets before.network = (.ok result, sockets, network) →
      Ends (next result) { before with sockets, network } fails gives) :
    Ends (Sockets.step use >>= next) before fails gives :=
  ends_hostStep (fun error (sockets, network) => failing error sockets network)
    fun result (sockets, network) => rest result sockets network

theorem Sockets.ends_step {next : α → Action β}
    {use : SocketService → Network → Except HostError α × SocketService × Network}
    (atomic : Atomic (before.sockets, before.network) (use before.sockets before.network))
    (spared : ∀ error, fails error before)
    (rest : ∀ result sockets network,
      use before.sockets before.network = (.ok result, sockets, network) →
      Ends (next result) { before with sockets, network } fails gives) :
    Ends (Sockets.step use >>= next) before fails gives := by
  refine ends_tryStep (fun error sockets network failed => ?_) rest
  cases atomic.eq failed
  exact spared (.host error)

theorem Http.ends_tryStep {next : α → Action β}
    {use : HttpService → Network → Except HostError α × HttpService × Network}
    (failing : ∀ error http network,
      use before.http before.network = (.error error, http, network) →
      fails (.host error) { before with http, network })
    (rest : ∀ result http network, use before.http before.network = (.ok result, http, network) →
      Ends (next result) { before with http, network } fails gives) :
    Ends (Http.step use >>= next) before fails gives :=
  ends_hostStep (fun error (http, network) => failing error http network)
    fun result (http, network) => rest result http network

theorem Http.ends_step {next : α → Action β}
    {use : HttpService → Network → Except HostError α × HttpService × Network}
    (atomic : Atomic (before.http, before.network) (use before.http before.network))
    (spared : ∀ error, fails error before)
    (rest : ∀ result http network, use before.http before.network = (.ok result, http, network) →
      Ends (next result) { before with http, network } fails gives) :
    Ends (Http.step use >>= next) before fails gives := by
  refine ends_tryStep (fun error http network failed => ?_) rest
  cases atomic.eq failed
  exact spared (.host error)

end Builtins

end

/-- A handle that a table has a resource for is live in it. -/
theorem Table.contains_of_get {table : Table Resource} (found : table.get handle = .ok resource) :
    table.contains handle = true := by
  rw [contains, get_eq_ok_iff.mp found]
  rfl

/-! A step of the system fails on its own account. -/

theorem step_of_onSystem {step : Except Errno α}
    (done : onSystem faults operation step = .ok result) : step = .ok result := by
  unfold onSystem at done
  split at done <;> cases done
  rfl

theorem kind_of_onSystem {step : Except Errno α}
    (failed : onSystem faults operation step = .error error) :
    (BuiltinError.host error).kind = .io := by
  unfold onSystem at failed
  split at failed <;> cases failed <;> rfl

/-! Operations that fail. All but reading a file and answering a request change nothing then. -/

namespace FileService

variable (service : FileService) (disk : Disk) (handle : Handle)

theorem atomic_openPath (path mode : String) :
    Atomic (service, disk) (service.openPath disk path mode) := by
  rw [openPath]
  split
  · exact .of_error _
  · split
    · exact .of_error _
    · exact .of_ok _ _

theorem atomic_write (data : Bytes) : Atomic (service, disk) (service.write disk handle data) := by
  rw [write]
  split
  · exact .of_error _
  · split
    · exact .of_error _
    · exact .of_ok _ _

theorem atomic_close : Atomic (service, disk) (service.close disk handle) := by
  rw [close]
  split
  · exact .of_ok _ _
  · exact .of_error _

/-- A read changes nothing but the disk, and if the system does not fail it, nothing at all. -/
theorem of_read_eq_error {service service' : FileService} {disk disk' : Disk} {count : Int}
    (failed : service.read disk handle count = (.error error, service', disk')) :
    service' = service ∧ (disk' = disk ∨ (BuiltinError.host error).kind = .io) := by
  rw [read] at failed
  split at failed
  · cases failed
    exact ⟨rfl, .inl rfl⟩
  · split at failed
    · cases failed
      exact ⟨rfl, .inl rfl⟩
    · split at failed
      · cases failed
      · dsimp only at failed
        split at failed
        · rename_i broken
          cases failed
          exact ⟨rfl, .inr (kind_of_onSystem broken)⟩
        · cases failed

end FileService

namespace Disk

variable (disk : Disk) (path : String)

theorem atomic_removePath : Atomic disk (disk.removePath path) := by
  rw [removePath]
  split
  · exact .of_error _
  · exact .of_ok _ _

theorem atomic_makePath : Atomic disk (disk.makePath path) := by
  rw [makePath]
  split
  · exact .of_error _
  · exact .of_ok _ _

end Disk

namespace SocketService

variable (service : SocketService) (network : Network) (handle : Handle)

theorem atomic_connect (host : String) (port : Int) :
    Atomic (service, network) (service.connect network host port) := by
  rw [connect]
  split
  · exact .of_error _
  · split
    · exact .of_error _
    · exact .of_ok _ _

theorem atomic_listen (host : String) (port : Int) :
    Atomic (service, network) (service.listen network host port) := by
  rw [listen]
  split
  · exact .of_error _
  · split
    · exact .of_error _
    · exact .of_ok _ _

theorem atomic_write (data : Bytes) :
    Atomic (service, network) (service.write network handle data) := by
  rw [write]
  split
  · exact .of_error _
  · split
    · exact .of_error _
    · exact .of_ok _ _

theorem atomic_close : Atomic (service, network) (service.close network handle) := by
  rw [close]
  split
  · exact .of_ok _ _
  · split
    · exact .of_ok _ _
    · exact .of_error _

end SocketService

namespace HttpService

variable (service : HttpService) (network : Network) (handle : Handle)

theorem atomic_listen (host : String) (port : Int) :
    Atomic (service, network) (service.listen network host port) := by
  rw [listen]
  split
  · exact .of_error _
  · split
    · exact .of_error _
    · exact .of_ok _ _

theorem atomic_close : Atomic (service, network) (service.close network handle) := by
  rw [close]
  split
  · exact .of_ok _ _
  · split
    · exact .of_ok _ _
    · exact .of_error _

/-- A failed answer has changed nothing, or it could not be sent and its request is gone. -/
theorem of_respond_eq_error {service service' : HttpService} {network network' : Network}
    (failed : service.respond network handle status headers body =
      (.error error, service', network')) :
    service' = service ∧ network' = network ∨
      (BuiltinError.host error).kind = .io ∧ service.requests.contains handle = true ∧
        service' = { service with requests := service.requests.drop handle } := by
  rw [respond] at failed
  split at failed
  · cases failed
    exact .inl ⟨rfl, rfl⟩
  · split at failed
    · cases failed
      exact .inl ⟨rfl, rfl⟩
    · split at failed
      · cases failed
        exact .inl ⟨rfl, rfl⟩
      · rename_i context requests taken
        obtain ⟨held, same⟩ := Table.take?_eq_some_iff.mp taken
        dsimp only at failed
        split at failed
        · cases failed
        · cases failed
          exact .inr ⟨rfl, by rw [Table.contains, held]; rfl, by rw [same]⟩

end HttpService

namespace Builtins

namespace Files

theorem regular_openFile : openFile.Regular := by
  intro env args before
  apply ends_check (harmless before)
  intro path _
  apply ends_need (harmless before)
  apply ends_check (harmless before)
  intro mode _
  apply ends_step (FileService.atomic_openPath ..) (harmless before)
  intro handle files disk _
  exact ⟨.refl _, Heap.conforms_ofHandle handle⟩

theorem regular_read : read.Regular := by
  intro env args before
  apply ends_check (harmless before)
  intro handle _
  apply ends_need (harmless before)
  apply ends_check (harmless before)
  intro limit _
  apply ends_tryStep
  · intro error files disk failed
    obtain ⟨rfl, rfl | system⟩ := FileService.of_read_eq_error handle failed
    · exact harmless before (.host error)
    · exact .inr ⟨system, rfl, rfl, rfl, rfl⟩
  · intro data files disk _
    exact ⟨.refl _, rfl⟩

theorem regular_write : write.Regular := by
  intro env args before
  apply ends_check (harmless before)
  intro handle _
  apply ends_need (harmless before)
  apply ends_check (harmless before)
  intro data _
  apply ends_step (FileService.atomic_write ..) (harmless before)
  intro count files disk _
  exact ⟨.refl _, rfl⟩

theorem regular_close : close.Regular := by
  intro env args before
  apply ends_need (harmless before)
  apply ends_check (harmless before)
  intro handle _
  apply ends_step (FileService.atomic_close ..) (harmless before)
  intro _ files disk _
  exact ⟨.refl _, rfl⟩

theorem regular_pathExists : pathExists.Regular := by
  intro env args before
  apply ends_check (harmless before)
  intro path _
  apply ends_need (harmless before)
  apply ends_look
  apply ends_hostCheck (harmless before)
  intro found _
  exact .unchanged rfl

theorem regular_remove : remove.Regular := by
  intro env args before
  apply ends_check (harmless before)
  intro path _
  apply ends_need (harmless before)
  apply ends_diskStep (Disk.atomic_removePath ..) (harmless before)
  intro disk _
  exact ⟨.refl _, rfl⟩

theorem regular_makeDirectory : makeDirectory.Regular := by
  intro env args before
  apply ends_check (harmless before)
  intro path _
  apply ends_need (harmless before)
  apply ends_diskStep (Disk.atomic_makePath ..) (harmless before)
  intro disk _
  exact ⟨.refl _, rfl⟩

theorem regular_execRoot : execRoot.Regular := fun _ _ _ => .unchanged rfl

theorem regular_all : ∀ builtin ∈ all, builtin.Regular := by
  simp only [all, List.forall_mem_cons]
  exact ⟨regular_openFile, regular_read, regular_write, regular_close, regular_pathExists,
    regular_remove, regular_makeDirectory, regular_execRoot, nofun⟩

end Files

namespace Sockets

theorem regular_connect : connect.Regular := by
  intro env args before
  apply ends_check (harmless before)
  intro host _
  apply ends_check (harmless before)
  intro port _
  apply ends_need (harmless before)
  apply ends_step (SocketService.atomic_connect ..) (harmless before)
  intro handle sockets network _
  exact ⟨.refl _, Heap.conforms_ofHandle handle⟩

theorem regular_listen : listen.Regular := by
  intro env args before
  apply ends_check (harmless before)
  intro host _
  apply ends_check (harmless before)
  intro port _
  apply ends_need (harmless before)
  apply ends_step (SocketService.atomic_listen ..) (harmless before)
  intro handle sockets network _
  exact ⟨.refl _, Heap.conforms_ofHandle handle⟩

theorem regular_accept : accept.Regular := by
  intro env args before
  apply ends_check (harmless before)
  intro server _
  apply ends_need (harmless before)
  apply ends_look
  apply ends_hostCheck (harmless before)
  intro listener found
  rw [ends_bind, holdOn, ends_modify]
  exact Suspended.begins (.acceptStream server listener) (Table.contains_of_get found)
    ⟨rfl, rfl, rfl, rfl⟩

theorem regular_read : read.Regular := by
  intro env args before
  apply ends_check (harmless before)
  intro handle _
  apply ends_need (harmless before)
  apply ends_check (harmless before)
  intro count _
  apply ends_hostCheck (harmless before)
  intro limit _
  apply ends_look
  apply ends_hostCheck (harmless before)
  intro endpoint found
  split
  · exact Gives.unchanged rfl
  · exact Suspended.begins (.readStream handle endpoint limit) (Table.contains_of_get found)
      ⟨rfl, rfl, rfl, rfl⟩

theorem regular_write : write.Regular := by
  intro env args before
  apply ends_check (harmless before)
  intro handle _
  apply ends_need (harmless before)
  apply ends_check (harmless before)
  intro data _
  apply ends_step (SocketService.atomic_write ..) (harmless before)
  intro count sockets network _
  exact ⟨.refl _, rfl⟩

theorem regular_close : close.Regular := by
  intro env args before
  apply ends_need (harmless before)
  apply ends_check (harmless before)
  intro handle _
  apply ends_step (SocketService.atomic_close ..) (harmless before)
  intro _ sockets network _
  exact ⟨.refl _, rfl⟩

theorem regular_localPort : localPort.Regular := by
  intro env args before
  apply ends_need (harmless before)
  apply ends_check (harmless before)
  intro handle _
  apply ends_look
  apply ends_hostCheck (harmless before)
  intro port _
  exact .unchanged rfl

theorem regular_all : ∀ builtin ∈ all, builtin.Regular := by
  simp only [all, List.forall_mem_cons]
  exact ⟨regular_connect, regular_listen, regular_accept, regular_read, regular_write,
    regular_close, regular_localPort, nofun⟩

end Sockets

namespace Http

theorem regular_request : request.Regular := by
  intro env args before
  apply ends_check (harmless before)
  intro method _
  apply ends_check (harmless before)
  intro url _
  apply ends_look
  apply ends_check (harmless before)
  intro headers _
  apply ends_check (harmless before)
  intro body _
  apply ends_need (harmless before)
  apply ends_hostCheck (harmless before)
  intro answer _
  rw [ends_bind]
  apply ends_newHeaders answer.headerMap
  intro ref heap more strings
  refine ⟨more, ?_⟩
  change heap.fieldsConform _ _ = true
  simp only [Heap.fieldsConform, strings, Bool.true_and]
  rfl

theorem regular_listen : listen.Regular := by
  intro env args before
  apply ends_check (harmless before)
  intro host _
  apply ends_check (harmless before)
  intro port _
  apply ends_need (harmless before)
  apply ends_step (HttpService.atomic_listen ..) (harmless before)
  intro handle http network _
  exact ⟨.refl _, Heap.conforms_ofHandle handle⟩

theorem regular_accept : accept.Regular := by
  intro env args before
  apply ends_check (harmless before)
  intro server _
  apply ends_need (harmless before)
  apply ends_look
  apply ends_hostCheck (harmless before)
  intro listener found
  rw [ends_bind, holdOn, ends_modify]
  exact Suspended.begins (.acceptRequest server listener) (Table.contains_of_get found)
    ⟨rfl, rfl, rfl, rfl⟩

/-- A failure to send an answer: the request that the arguments name is gone, and nothing else that
programs hold. -/
structure Unanswered (args : List Value) (before : World) (error : BuiltinError) (after : World) :
    Prop where
  kind : error.kind = .io
  heap : after.heap = before.heap
  files : after.files = before.files
  sockets : after.sockets = before.sockets
  request : ∃ handle, Args.handle args 0 = .ok handle ∧
    before.http.requests.contains handle = true ∧
    after.http = { before.http with requests := before.http.requests.drop handle }

theorem ends_respond (env : Environment) (args : List Value) (before : World) :
    Ends (respond.run env args) before
      (fun error after => after = before ∨ Unanswered args before error after)
      (Progress.Meets (Gives .unit before) (Waits .unit before)) := by
  have spared : ∀ error, before = before ∨ Unanswered args before error before := fun _ => .inl rfl
  apply ends_check spared
  intro handle named
  apply ends_check spared
  intro status _
  apply ends_look
  apply ends_check spared
  intro headers _
  apply ends_need spared
  apply ends_check spared
  intro body _
  apply ends_tryStep
  · intro error http network failed
    obtain ⟨rfl, rfl⟩ | ⟨kind, held, same⟩ := HttpService.of_respond_eq_error handle failed
    · exact spared (.host error)
    · exact .inr ⟨kind, rfl, rfl, rfl, handle, named, held, same⟩
  · intro _ http network _
    exact ⟨.refl _, rfl⟩

theorem regular_close : close.Regular := by
  intro env args before
  apply ends_need (harmless before)
  apply ends_check (harmless before)
  intro handle _
  apply ends_step (HttpService.atomic_close ..) (harmless before)
  intro _ http network _
  exact ⟨.refl _, rfl⟩

theorem regular_localPort : localPort.Regular := by
  intro env args before
  apply ends_need (harmless before)
  apply ends_check (harmless before)
  intro handle _
  apply ends_look
  apply ends_hostCheck (harmless before)
  intro port _
  exact .unchanged rfl

/-- Answering is the exception. -/
theorem regular_of_mem (member : builtin ∈ all) (notRespond : builtin ≠ respond) :
    builtin.Regular := by
  simp only [all, List.mem_cons, List.not_mem_nil, or_false] at member
  obtain rfl | rfl | rfl | rfl | rfl | rfl := member
  · exact regular_request
  · exact regular_listen
  · exact regular_accept
  · exact absurd rfl notRespond
  · exact regular_close
  · exact regular_localPort

end Http

end Builtins

end ScriptHost
