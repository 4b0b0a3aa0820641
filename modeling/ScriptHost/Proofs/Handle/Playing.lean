import ScriptHost.Proofs.Handle.Lookups

/-! Every builtin on files, sockets and HTTP deals with handles as its role says. -/
namespace ScriptHost

theorem Misread.kind (misread : Misread error) : error.kind = .contract := by
  cases misread <;> rfl

namespace Args

variable {fault : BuiltinError}

theorem misread_of_any (failed : any args index = .error fault) : Misread fault := by
  rw [any] at failed
  split at failed <;> cases failed
  exact .missing index

theorem misread_of_int (failed : int args index = .error fault) : Misread fault := by
  rw [int] at failed
  split at failed <;> cases failed
  · exact .wrong ..
  · exact misread_of_any ‹_›

theorem misread_of_bytes (failed : bytes args index = .error fault) : Misread fault := by
  rw [bytes] at failed
  split at failed <;> cases failed
  · exact .wrong ..
  · exact misread_of_any ‹_›

theorem resource_of_handle (failed : handle args index = .error fault) :
    Misread fault ∨ fault.kind = .resource := by
  rw [handle] at failed
  split at failed
  · cases failed
    exact .inl (misread_of_bytes ‹_›)
  · split at failed <;> cases failed
    exact .inr rfl

theorem kind_of_dict (failed : dict args index = .error fault) : fault.kind = .contract := by
  rw [dict] at failed
  split at failed <;> cases failed
  · rfl
  · exact (misread_of_any ‹_›).kind

theorem kind_of_stringEntries {entries : List (String × Value)}
    (failed : stringEntries entries = .error fault) : fault.kind = .contract := by
  fun_induction stringEntries entries with
  | case1 => cases failed
  | case2 key text rest ih => exact ih (eq_error_of_map_eq_error failed)
  | case3 =>
    cases failed
    rfl

theorem kind_of_headers (failed : headers heap args index = .error fault) :
    fault.kind = .contract := by
  rw [headers] at failed
  split at failed
  · cases failed
    exact kind_of_dict ‹_›
  · exact kind_of_stringEntries (eq_error_of_map_eq_error failed)

end Args

section

variable {moves : World → World → Prop} {env : Environment} {args : List Value} {before : World}
  {role : Role}

theorem World.not_finds_of_unnamed (unnamed : Args.handle args 0 = .error error)
    (kinds : List ResourceKind) : ¬before.Finds kinds args := by
  intro finds
  obtain ⟨handle, named, _⟩ := finds
  cases unnamed.symm.trans named

namespace Role

/-- A call without a handle may fail for any reason. -/
theorem comes_untaken (moves : World → World → Prop) (env : Environment) (args : List Value)
    (before : World) (role : Role) (untaken : role.takes = []) (stays : ¬role.Consumes)
    (error : BuiltinError) :
    role.Comes moves env args before (role.Refuses args before) (.error error) before :=
  .untaken untaken stays (.same rfl (fun _ _ => ⟨error, rfl⟩) fun consumes => absurd consumes stays)

/-- A call without a handle that leaves what handles stand for. -/
theorem Comes.of_works {refusal : BuiltinError → Prop} {after : World} (untaken : role.takes = [])
    (use : role.use = .works) (same : after.ledger = before.ledger) :
    role.Comes moves env args before refusal outcome after := by
  have stays : ¬role.Consumes := by
    rw [Consumes, use]
    decide
  refine .untaken untaken stays (.same same (fun kind other => ?_) fun consumes => ?_)
  · cases use.symm.trans other
  · exact absurd consumes stays

/-! The checks in front of an operation. -/

theorem tries_handle {next : Handle → Action Progress}
    (rest : ∀ handle, Args.handle args 0 = .ok handle →
      role.Tries moves env args before (next handle) before) :
    role.Tries moves env args before (Action.ofExcept (Args.handle args 0) >>= next) before := by
  refine ends_tryCheck (fun error unnamed => ?_) rest
  cases Args.resource_of_handle unnamed with
  | inl misread => exact .refused (.inr misread) misread.kind
  | inr isResource => exact .missed (World.not_finds_of_unnamed unnamed _) isResource

theorem tries_service {present : Bool} {service : Service} {next : Unit → Action Progress}
    (provided : before.Provided env) (asked : present = env.provides service)
    (own : ∀ kind ∈ role.takes, kind.service = service)
    (rest : role.Tries moves env args before (next ()) before) :
    role.Tries moves env args before (Action.need present service >>= next) before := by
  subst asked
  refine ends_tryNeed (fun absent => .missed (fun finds => ?_) rfl) fun _ => rest
  obtain ⟨handle, _, kind, member, held⟩ := finds
  have given := provided kind handle held
  rw [own kind member, absent] at given
  cases given

theorem tries_argument {check : Except BuiltinError α} {next : α → Action Progress}
    (misread : ∀ error, check = .error error → Misread error)
    (rest : ∀ result, check = .ok result → role.Tries moves env args before (next result) before) :
    role.Tries moves env args before (Action.ofExcept check >>= next) before :=
  ends_tryCheck
    (fun error failed => .refused (.inr (misread error failed)) (misread error failed).kind) rest

/-- A call whose handle is looked for in a table in front of the rest. -/
theorem tries_lookup (table : Table Resource) (wrap : Resource → Holding)
    (takes : role.takes = [kind])
    (kept : before.held kind handle = (table.get? handle).map wrap)
    (named : Args.handle args 0 = .ok handle) {next : Resource → Action Progress}
    (rest : ∀ resource, before.held kind handle = some (wrap resource) →
      role.Tries moves env args before (next resource) before) :
    role.Tries moves env args before (Action.ofHost (table.get handle) >>= next) before := by
  cases found : table.get? handle with
  | none =>
    rw [found] at kept
    rw [Table.get_of_get?_eq_none found]
    refine .missed (World.not_finds_of_missing named ?_) rfl
    rw [takes]
    exact List.forall_mem_singleton.mpr kept
  | some resource =>
    rw [found] at kept
    rw [Table.get_eq_ok_iff.mpr found]
    exact rest resource kept

/-! The last step of a call tells the program what a service answers. -/

theorem tries_hostCheck {check : Except HostError α} {value : α → Value}
    (comes : role.Comes moves env args before (role.Refuses args before) (answerOf value check)
      before) :
    role.Tries moves env args before
      (Action.ofHost check >>= fun result => pure (.finished (value result))) before := by
  cases check with
  | ok result => exact comes
  | error error => exact comes

theorem tries_hostStep {use : World → Except HostError α × State}
    {putBack : World → State → World} {value : α → Value}
    (comes : ∀ outcome state, use before = (outcome, state) →
      role.Comes moves env args before (role.Refuses args before) (answerOf value outcome)
        (putBack before state)) :
    role.Tries moves env args before
      (Action.hostStep use putBack >>= fun result => pure (.finished (value result))) before :=
  ends_hostStep (fun error state failed => comes (.error error) state failed)
    fun result state done => comes (.ok result) state done

end Role

end

/-! What comes of an attempt while the handle is open. -/

theorem of_tryAccept {network network' : Network}
    (tried : tryAccept network listener true closed = .done outcome network') :
    (∃ cause, network.faults .accept = some cause ∧ outcome = .error (.io .accept cause) ∧
        network' = network) ∨
      ∃ endpoint, network.faults .accept = none ∧
        network.accept? listener = some (endpoint, network') ∧ outcome = .ok endpoint := by
  rw [tryAccept] at tried
  split at tried
  · rename_i faulty
    cases tried
    exact .inl ⟨_, faulty, rfl, rfl⟩
  · rename_i faultless taken
    cases tried
    exact .inr ⟨_, faultless, taken, rfl⟩
  · cases tried

theorem SocketService.of_read {service service' : SocketService} {network network' : Network}
    (isOpen : service.streams.contains handle = true)
    (ran : service.read network handle endpoint limit = .done outcome (service', network')) :
    service' = service ∧ ∃ received,
      network.receive? endpoint (min limit maxReadChunk) = some (received, network') ∧
        outcome = onStream .read received := by
  rw [read, isOpen] at ran
  split at ran
  · cases ran
  · rename_i received network' done
    injection ran with told after
    cases after
    refine ⟨rfl, received, done, ?_⟩
    rw [← told]
    split <;> rfl

theorem World.of_readRequest {world : World} {http : HttpService} {network : Network}
    (isOpen : world.http.listeners.contains server = true)
    (ran : world.http.readRequest world.network limits world.clock server endpoint deadline =
      .done outcome (http, network)) :
    (∃ request rest, world.requestAt limits endpoint deadline = .ok (request, rest) ∧
        outcome = .ok (world.http.addRequest endpoint request).1 ∧
        http = (world.http.addRequest endpoint request).2 ∧ network = world.network) ∨
      ∃ error, world.requestAt limits endpoint deadline = .error error ∧
        HttpService.isUndecided error = false ∧ outcome = .error error ∧ http = world.http ∧
        network = HttpService.reject world.network endpoint error := by
  rw [HttpService.readRequest, isOpen] at ran
  dsimp only at ran
  split at ran
  · rename_i request rest arrived
    cases ran
    exact .inl ⟨request, rest, arrived, rfl, rfl, rfl⟩
  · rename_i error failed
    split at ran
    · cases ran
    · rename_i decided
      cases ran
      exact .inr ⟨error, failed, Bool.eq_false_of_not_eq_true decided, rfl, rfl, rfl⟩

/-- A handle that stands for a resource is in its table. -/
theorem Table.contains_of_held {table : Table Resource} {wrap : Resource → Holding}
    (held : (table.get? handle).map wrap = some holding) : table.contains handle = true := by
  obtain ⟨resource, found, _⟩ := Option.map_eq_some_iff.mp held
  exact contains_iff.mpr ⟨resource, found⟩

namespace Role

section

variable {moves : World → World → Prop} {env : Environment} {args : List Value}
  {before last : World} {role : Role} {handle : Handle}
  (keeping : Keeping moves)
  (named : Args.handle args 0 = .ok handle)

include keeping named

private theorem tries_acceptStream (use : role.use = .issues .socket)
    (member : .listener ∈ role.takes)
    (held : before.held .listener handle = some (.listener listener))
    (waited : WaitedAt moves before listener last) :
    role.Tries moves env args before ((Suspended.acceptStream handle listener).advance env)
      last := by
  have isOpen : last.sockets.listeners.contains handle = true := by
    rw [(waited.keeps keeping).sockets]
    exact Table.contains_of_held held
  rw [Tries, Suspended.advance, ends_bind, ends_get]
  split
  · exact .acceptStream use named member held waited
  rename_i outcome sockets network ran
  rw [ends_bind, ends_set, ends_bind, letGo, ends_modify]
  rw [SocketService.accept, isOpen] at ran
  split at ran
  · cases ran
  · rename_i tried
    cases ran
    obtain ⟨cause, failed, same, rfl⟩ | ⟨_, _, _, impossible⟩ := of_tryAccept tried
    · cases same
      exact .acts named member held (.acceptFails use waited failed)
    · cases impossible
  · rename_i tried
    cases ran
    obtain ⟨_, _, impossible, _⟩ | ⟨endpoint, faultless, taken, same⟩ := of_tryAccept tried
    · cases impossible
    · cases same
      exact .acts named member held (.acceptsStream use waited faultless taken)

private theorem tries_readStream (use : role.use = .reads) (member : .socket ∈ role.takes)
    (held : before.held .socket handle = some (.stream endpoint))
    (length : Args.int args 1 = .ok (Int.ofNat limit)) (positive : 0 < limit)
    (waited : Waited moves before last) :
    role.Tries moves env args before ((Suspended.readStream handle endpoint limit).advance env)
      last := by
  have isOpen : last.sockets.streams.contains handle = true := by
    rw [(Waited.keeps keeping waited).sockets]
    exact Table.contains_of_held held
  rw [Tries, Suspended.advance, ends_bind, ends_get]
  split
  · exact .readStream use named member held length positive waited
  rename_i outcome sockets network ran
  rw [ends_bind, ends_set]
  obtain ⟨rfl, received, done, rfl⟩ := SocketService.of_read isOpen ran
  have comes : role.Comes moves env args before (role.Refuses args before) _ _ :=
    .acts named member held (.receives use length positive waited done)
  cases received with
  | ok data => exact comes
  | error cause => exact comes

private theorem tries_reading (use : role.use = .issues .httpRequest)
    (member : .httpListener ∈ role.takes)
    (held : before.held .httpListener handle = some (.listener listener))
    (connected : Connected moves env before listener endpoint deadline last) :
    role.Tries moves env args before (advanceReading env handle listener endpoint deadline)
      last := by
  have isOpen : last.http.listeners.contains handle = true := by
    rw [(connected.keeps keeping).http]
    exact Table.contains_of_held held
  rw [Tries, advanceReading, ends_bind, ends_get]
  split
  · exact .readRequest use named member held connected
  rename_i outcome http network ran
  rw [ends_bind, ends_set, ends_bind, letGo, ends_modify]
  obtain ⟨request, rest, read, rfl, rfl, rfl⟩ | ⟨error, failed, decided, rfl, rfl, rfl⟩ :=
    World.of_readRequest isOpen ran
  · have comes : role.Comes moves env args before (role.Refuses args before) _ _ :=
      .acts named member held (.acceptsRequest use connected read rfl)
    exact comes
  · exact .acts named member held (.rejects use connected failed decided)

private theorem tries_acceptRequest (use : role.use = .issues .httpRequest)
    (member : .httpListener ∈ role.takes)
    (held : before.held .httpListener handle = some (.listener listener))
    (waited : WaitedAt moves before listener last) :
    role.Tries moves env args before ((Suspended.acceptRequest handle listener).advance env)
      last := by
  have isOpen : last.http.listeners.contains handle = true := by
    rw [(waited.keeps keeping).http]
    exact Table.contains_of_held held
  rw [Tries, Suspended.advance, ends_bind, ends_get, isOpen]
  split
  · exact .acceptRequest use named member held waited
  · rename_i tried
    obtain ⟨cause, failed, same, rfl⟩ | ⟨_, _, _, impossible⟩ := of_tryAccept tried
    · cases same
      exact .acts named member held (.acceptFails use waited failed)
    · cases impossible
  · rename_i tried
    obtain ⟨_, _, impossible, _⟩ | ⟨endpoint, faultless, taken, same⟩ := of_tryAccept tried
    · cases impossible
    · cases same
      rw [ends_bind, ends_set]
      exact tries_reading keeping named use member held ⟨waited, faultless, taken, rfl, .refl⟩

end

/-- An attempt at a call that waits. -/
theorem Waits.tries {role : Role} (keeping : Keeping moves)
    (waits : role.Waits moves env args before call last) :
    role.Tries moves env args before (call.advance env) last := by
  cases waits with
  | acceptStream use named member held waited =>
    exact tries_acceptStream keeping named use member held waited
  | readStream use named member held length positive waited =>
    exact tries_readStream keeping named use member held length positive waited
  | acceptRequest use named member held waited =>
    exact tries_acceptRequest keeping named use member held waited
  | readRequest use named member held connected =>
    exact tries_reading keeping named use member held connected

end Role

namespace Builtins

namespace Files

theorem plays_openFile : openFile.Plays { use := .issues .file } := by
  intro moves env args before _ _
  have spared := Role.comes_untaken moves env args before { use := .issues .file } rfl (by decide)
  apply ends_check spared
  intro path _
  apply ends_tryNeed fun _ => spared _
  intro present
  apply ends_check spared
  intro mode _
  apply ends_step (FileService.atomic_openPath ..) spared
  intro handle files disk opened
  rw [FileService.openPath] at opened
  split at opened
  · cases opened
  · split at opened <;> cases opened
    exact .untaken rfl (by decide)
      (.issued rfl present (Value.handle?_ofHandle _) (before.ledger_openFile ..))

theorem plays_read :
    read.Plays { takes := [.file], use := .reads, sound := Role.SoundLength } := by
  intro moves env args before _ provided
  apply Role.tries_handle
  intro handle named
  refine Role.tries_service provided rfl (List.forall_mem_singleton.mpr rfl) ?_
  apply Role.tries_argument fun _ => Args.misread_of_int
  intro length given
  exact Role.tries_hostStep fun _ _ ran => Role.comes_readFile named given ran

theorem plays_write : write.Plays { takes := [.file], use := .writes } := by
  intro moves env args before _ provided
  apply Role.tries_handle
  intro handle named
  refine Role.tries_service provided rfl (List.forall_mem_singleton.mpr rfl) ?_
  apply Role.tries_argument fun _ => Args.misread_of_bytes
  intro data given
  exact Role.tries_hostStep fun _ _ ran => Role.comes_writeFile named given ran

theorem plays_close : close.Plays { takes := [.file], use := .closes } := by
  intro moves env args before _ provided
  refine Role.tries_service provided rfl (List.forall_mem_singleton.mpr rfl) ?_
  apply Role.tries_handle
  intro handle named
  exact Role.tries_hostStep fun _ _ ran => Role.comes_closeFile named ran

theorem plays_pathExists : pathExists.Plays {} := by
  intro moves env args before _ _
  have spared := Role.comes_untaken moves env args before {} rfl (by decide)
  apply ends_check spared
  intro path _
  apply ends_need spared
  apply ends_look
  apply ends_hostCheck spared
  intro found _
  exact .of_works rfl rfl rfl

theorem plays_remove : remove.Plays {} := by
  intro moves env args before _ _
  have spared := Role.comes_untaken moves env args before {} rfl (by decide)
  apply ends_check spared
  intro path _
  apply ends_need spared
  apply ends_diskStep (Disk.atomic_removePath ..) spared
  intro disk _
  exact .of_works rfl rfl rfl

theorem plays_makeDirectory : makeDirectory.Plays {} := by
  intro moves env args before _ _
  have spared := Role.comes_untaken moves env args before {} rfl (by decide)
  apply ends_check spared
  intro path _
  apply ends_need spared
  apply ends_diskStep (Disk.atomic_makePath ..) spared
  intro disk _
  exact .of_works rfl rfl rfl

theorem plays_execRoot : execRoot.Plays {} := fun _ _ _ _ _ _ => .of_works rfl rfl rfl

end Files

namespace Sockets

theorem plays_connect : connect.Plays { use := .issues .socket } := by
  intro moves env args before _ _
  have spared := Role.comes_untaken moves env args before { use := .issues .socket } rfl (by decide)
  apply ends_check spared
  intro host _
  apply ends_check spared
  intro port _
  apply ends_tryNeed fun _ => spared _
  intro present
  apply ends_step (SocketService.atomic_connect ..) spared
  intro handle sockets network connected
  rw [SocketService.connect] at connected
  split at connected
  · cases connected
  · split at connected <;> cases connected
    exact .untaken rfl (by decide)
      (.issued rfl present (Value.handle?_ofHandle _) (before.ledger_addStream ..))

theorem plays_listen : listen.Plays { use := .issues .listener } := by
  intro moves env args before _ _
  have spared := Role.comes_untaken moves env args before { use := .issues .listener } rfl
    (by decide)
  apply ends_check spared
  intro host _
  apply ends_check spared
  intro port _
  apply ends_tryNeed fun _ => spared _
  intro present
  apply ends_step (SocketService.atomic_listen ..) spared
  intro handle sockets network bound
  rw [SocketService.listen] at bound
  split at bound
  · cases bound
  · split at bound <;> cases bound
    exact .untaken rfl (by decide)
      (.issued rfl present (Value.handle?_ofHandle _) (before.ledger_addListener ..))

theorem plays_accept : accept.Plays { takes := [.listener], use := .issues .socket } := by
  intro moves env args before keeping provided
  apply Role.tries_handle
  intro server named
  refine Role.tries_service provided rfl (List.forall_mem_singleton.mpr rfl) ?_
  apply ends_look
  refine Role.tries_lookup before.sockets.listeners .listener rfl rfl named fun listener held => ?_
  rw [Role.Tries, ends_bind, holdOn, ends_modify]
  exact Role.Waits.tries keeping (.acceptStream rfl named (.head _) held .refl)

theorem plays_read :
    read.Plays { takes := [.socket], use := .reads, sound := Role.SoundLength } := by
  intro moves env args before keeping provided
  apply Role.tries_handle
  intro handle named
  refine Role.tries_service provided rfl (List.forall_mem_singleton.mpr rfl) ?_
  apply Role.tries_argument fun _ => Args.misread_of_int
  intro length given
  apply ends_tryHostCheck
  · intro error failed
    rw [readLimit] at failed
    split at failed <;> cases failed
    exact .refused (.inl fun sound => Int.not_lt.mpr (sound length given) ‹_›) rfl
  intro limit within
  apply ends_look
  refine Role.tries_lookup before.sockets.streams .stream rfl rfl named fun endpoint held => ?_
  rw [readLimit] at within
  split at within <;> cases within
  obtain ⟨limit, rfl⟩ := Int.eq_ofNat_of_zero_le (Int.not_lt.mp ‹_›)
  rw [Int.toNat_natCast]
  split
  · rename_i empty
    subst empty
    exact .acts named (.head _) held (.readsNothing rfl given)
  · rename_i some
    exact Role.Waits.tries keeping
      (.readStream rfl named (.head _) held given (Nat.pos_of_ne_zero some) .refl)

theorem plays_write : write.Plays { takes := [.socket], use := .writes } := by
  intro moves env args before _ provided
  apply Role.tries_handle
  intro handle named
  refine Role.tries_service provided rfl (List.forall_mem_singleton.mpr rfl) ?_
  apply Role.tries_argument fun _ => Args.misread_of_bytes
  intro data given
  exact Role.tries_hostStep fun _ _ ran => Role.comes_writeStream named given ran

theorem plays_close : close.Plays { takes := [.socket, .listener], use := .closes } := by
  intro moves env args before _ provided
  refine Role.tries_service provided rfl (by decide) ?_
  apply Role.tries_handle
  intro handle named
  exact Role.tries_hostStep fun _ _ ran => Role.comes_closeSocket named ran

theorem plays_localPort : localPort.Plays { takes := [.socket, .listener], use := .tellsPort } := by
  intro moves env args before _ provided
  refine Role.tries_service provided rfl (by decide) ?_
  apply Role.tries_handle
  intro handle named
  apply ends_look
  exact Role.tries_hostCheck (Role.comes_socketPort named)

end Sockets

namespace Http

theorem plays_request : request.Plays {} := by
  intro moves env args before _ _
  have spared := Role.comes_untaken moves env args before {} rfl (by decide)
  apply ends_check spared
  intro method _
  apply ends_check spared
  intro url _
  apply ends_look
  apply ends_check spared
  intro headers _
  apply ends_check spared
  intro body _
  apply ends_need spared
  apply ends_hostCheck spared
  intro answer _
  rw [ends_bind]
  apply ends_newHeaders answer.headerMap
  intro ref heap _ _
  exact .of_works rfl rfl rfl

theorem plays_listen : listen.Plays { use := .issues .httpListener } := by
  intro moves env args before _ _
  have spared := Role.comes_untaken moves env args before { use := .issues .httpListener } rfl
    (by decide)
  apply ends_check spared
  intro host _
  apply ends_check spared
  intro port _
  apply ends_tryNeed fun _ => spared _
  intro present
  apply ends_step (HttpService.atomic_listen ..) spared
  intro handle http network bound
  rw [HttpService.listen] at bound
  split at bound
  · cases bound
  · split at bound <;> cases bound
    exact .untaken rfl (by decide)
      (.issued rfl present (Value.handle?_ofHandle _) (before.ledger_listen ..))

theorem plays_accept : accept.Plays { takes := [.httpListener], use := .issues .httpRequest } := by
  intro moves env args before keeping provided
  apply Role.tries_handle
  intro server named
  refine Role.tries_service provided rfl (List.forall_mem_singleton.mpr rfl) ?_
  apply ends_look
  refine Role.tries_lookup before.http.listeners .listener rfl rfl named fun listener held => ?_
  rw [Role.Tries, ends_bind, holdOn, ends_modify]
  exact Role.Waits.tries keeping (.acceptRequest rfl named (.head _) held .refl)

theorem plays_respond : respond.Plays
    { takes := [.httpRequest], use := .answers, sound := Role.SoundAnswer } := by
  intro moves env args before _ provided
  apply Role.tries_handle
  intro handle named
  apply Role.tries_argument fun _ => Args.misread_of_int
  intro status number
  apply ends_look
  apply ends_tryCheck
  · intro error failed
    refine .refused (.inl fun sound => ?_) (Args.kind_of_headers failed)
    obtain ⟨_, headers, given, _⟩ := sound
    cases failed.symm.trans given
  intro headers given
  refine Role.tries_service provided rfl (List.forall_mem_singleton.mpr rfl) ?_
  apply Role.tries_argument fun _ => Args.misread_of_bytes
  intro body text
  exact Role.tries_hostStep fun _ _ ran => Role.comes_respond named number given text ran

theorem plays_close : close.Plays
    { takes := [.httpListener, .httpRequest], use := .closes } := by
  intro moves env args before _ provided
  refine Role.tries_service provided rfl (by decide) ?_
  apply Role.tries_handle
  intro handle named
  exact Role.tries_hostStep fun _ _ ran => Role.comes_closeHttp named ran

theorem plays_localPort : localPort.Plays { takes := [.httpListener], use := .tellsPort } := by
  intro moves env args before _ provided
  refine Role.tries_service provided rfl (List.forall_mem_singleton.mpr rfl) ?_
  apply Role.tries_handle
  intro handle named
  apply ends_look
  exact Role.tries_hostCheck (Role.comes_httpPort named)

end Http

end Builtins

/-- Every builtin of the three services does what its role says. -/
theorem Role.plays_all : ∀ entry ∈ Role.all, entry.1.Plays entry.2 := by
  simp only [all, List.forall_mem_cons]
  open Builtins in
  exact ⟨Files.plays_openFile, Files.plays_read, Files.plays_write, Files.plays_close,
    Files.plays_pathExists, Files.plays_remove, Files.plays_makeDirectory, Files.plays_execRoot,
    Sockets.plays_connect, Sockets.plays_listen, Sockets.plays_accept, Sockets.plays_read,
    Sockets.plays_write, Sockets.plays_close, Sockets.plays_localPort, Http.plays_request,
    Http.plays_listen, Http.plays_accept, Http.plays_respond, Http.plays_close,
    Http.plays_localPort, nofun⟩

end ScriptHost
