import ScriptHost.Proofs.Service.HttpInvariant

/-! The steps of a call that no other call comes between do what the service does at once. -/
namespace ScriptHost.HttpService

open Network (EndpointId ListenerId)

/-- The steps of one call from one stage to another. -/
abbrev Undisturbed (limits : Http.Limits) (caller : CallId) (call : Call) :
    World × Stage → World × Stage → Prop :=
  Relation.ReflTransGen fun before after =>
    Advance limits caller before.1 call before.2 after.1 after.2

variable {limits : Http.Limits} {caller : CallId} {world : World} {network network' : Network}
  {service : HttpService}

theorem Undisturbed.first (advance : Advance limits caller world call stage world' next) :
    Undisturbed limits caller call (world, stage) (world', next) := .single advance

theorem Undisturbed.andThen (before : Undisturbed limits caller call start (world, stage))
    (advance : Advance limits caller world call stage world' next) :
    Undisturbed limits caller call start (world', next) := before.tail advance

theorem Undisturbed.run {state : State} (made : state.calls caller = some ⟨call, stage⟩)
    (undisturbed : Undisturbed limits caller call (state.world, stage) (world, next)) :
    State.Run limits state (state.proceed caller world ⟨call, next⟩) := by
  generalize target : (world, next) = after at undisturbed
  induction undisturbed generalizing world next with
  | refl =>
    obtain ⟨rfl, rfl⟩ := Prod.mk.inj target
    have same : state.proceed caller state.world ⟨call, next⟩ = state := by
      rw [State.proceed, ← made, Function.update_eq_self]
    rw [same]
  | @tail between after _ advance ih =>
    obtain ⟨world', stage'⟩ := between
    subst target
    rw [← state.proceed_proceed caller world' world ⟨call, stage'⟩ ⟨call, next⟩]
    exact (ih rfl).tail (.move (.intro (State.calls_proceed_self ..) advance))

/-- The call is made and takes its steps. -/
theorem Undisturbed.start {state : State} (idle : state.calls caller = none)
    (undisturbed : Undisturbed limits caller call (state.world, .called) (world, next)) :
    State.Run limits state (state.proceed caller world ⟨call, next⟩) := by
  have begun : State.Run limits state (state.proceed caller state.world ⟨call, .called⟩) :=
    .single (.start idle call)
  have rest := Undisturbed.run (State.calls_proceed_self state caller state.world ⟨call, .called⟩)
    undisturbed
  rw [State.proceed_proceed] at rest
  exact begun.trans rest

theorem undisturbed_listen_error
    (failed : world.service.listen network host port = (.error error, service, network')) :
    Undisturbed limits caller (.listen host port) (world, .called)
      ({ world with service }, .returned (.error error)) := by
  rw [HttpService.listen] at failed
  split at failed
  · rename_i refused
    cases failed
    exact .first (.look (.badPort refused))
  · rename_i number checked
    cases bound : network.listen host number with
    | error cause =>
      rw [bound] at failed
      cases failed
      exact .first (.look (.bindFails checked cause))
    | ok taken =>
      rw [bound] at failed
      cases failed

theorem undisturbed_bind (limits : Http.Limits) (caller : CallId) (host : String)
    (listener : ListenerId) (checked : portOf port = .ok number)
    (room : world.service.ids.issued < UInt64.size - 1) :
    Undisturbed limits caller (.listen host port) (world, .called)
      ({ world with
          service.ids := world.service.ids.advance
          service.listeners := world.service.listeners.store world.service.ids.next listener },
        .returned (.ok (.handle world.service.ids.next))) := by
  have binds : Undisturbed limits caller (.listen host port) (world, .called)
      (world, .bound listener) := .first (.look (.binds checked listener))
  exact (binds.andThen (.nameListener room)).andThen .keepListener

theorem undisturbed_listen (room : world.service.ids.issued < UInt64.size - 1)
    (listens : world.service.listen network host port = (.ok handle, service, network')) :
    Undisturbed limits caller (.listen host port) (world, .called)
      ({ world with service }, .returned (.ok (.handle handle))) := by
  rw [HttpService.listen] at listens
  split at listens
  · cases listens
  · rename_i number checked
    cases bound : network.listen host number with
    | error cause =>
      rw [bound] at listens
      cases listens
    | ok taken =>
      rw [bound] at listens
      cases listens
      exact undisturbed_bind limits caller host taken.1 checked room

/-- Whether the answer goes out or not. -/
theorem undisturbed_respond
    (responds : world.service.respond network handle status headers body =
      (outcome, service, network')) :
    ∃ world', world'.service = service ∧
      Undisturbed limits caller (.respond handle status headers body) (world, .called)
        (world', .returned (outcome.map fun _ => .done)) := by
  rw [HttpService.respond] at responds
  split at responds
  · rename_i refused
    cases responds
    exact ⟨_, rfl, .first (.look (.badStatus refused))⟩
  · rename_i code checked
    split at responds
    · rename_i refused
      cases responds
      exact ⟨_, rfl, .first (.look (.badHeaders checked refused))⟩
    · rename_i valid
      split at responds
      · rename_i missing
        cases responds
        exact ⟨_, rfl, .first (.look (.noRequest checked valid missing))⟩
      · rename_i context left taken
        have takes : Undisturbed limits caller (.respond handle status headers body)
            (world, .called) _ := .first (.take checked valid taken)
        cases sent : network.send context.endpoint
            ((Http.Response.mk context.version code headers body).toBytes context.headOnly) with
        | ok after =>
          simp only [sent] at responds
          cases responds
          exact ⟨_, rfl, (takes.andThen .write).andThen .shutDown⟩
        | error cause =>
          simp only [sent] at responds
          cases responds
          exact ⟨_, rfl, (takes.andThen (.writeFails [] List.nil_prefix cause)).andThen .shutDown⟩

theorem undisturbed_close
    (closes : world.service.close network handle = (outcome, service, network')) :
    ∃ world', world'.service = service ∧ Undisturbed limits caller (.close handle)
      (world, .called) (world', .returned (outcome.map fun _ => .done)) := by
  rw [HttpService.close] at closes
  split at closes
  · rename_i taken
    cases closes
    exact ⟨_, rfl, .first (.closeListener taken)⟩
  · rename_i noListener
    have misses : Undisturbed limits caller (.close handle) (world, .called) (world, .missed) :=
      .first (.look (.isNoListener noListener))
    split at closes
    · rename_i context left taken
      cases closes
      exact ⟨_, rfl, (misses.andThen (.dropRequest taken)).andThen .shutDown⟩
    · rename_i noRequest
      cases closes
      exact ⟨_, rfl, misses.andThen (.look (.isNoRequest noRequest))⟩

/-- A call reads whatever the system has for it, the listener being open all the while or not. -/
theorem undisturbed_reads {stillOpen : Bool} (reads : List Http.TimedRead)
    (listener : world.service.listeners.contains server = stillOpen)
    (steady : ∀ read ∈ reads, read.listenerOpen = stillOpen) (before : List Http.TimedRead) :
    Undisturbed limits caller (.accept server) (world, .reading endpoint deadline before)
      (world, .reading endpoint deadline (before ++ reads)) := by
  induction reads generalizing before with
  | nil =>
    rw [List.append_nil]
  | cons read rest ih =>
    have now := steady read List.mem_cons_self
    have recorded : read = ⟨read.outcome, read.clock, world.service.listeners.contains server⟩ := by
      rw [listener, ← steady read List.mem_cons_self]
    have one : Undisturbed limits caller (.accept server)
        (world, .reading endpoint deadline before)
        (world, .reading endpoint deadline (before ++ [read])) := by
      rw [recorded]
      exact .first (.look (.reads read.outcome read.clock))
    have still (later) (member : later ∈ rest) : later.listenerOpen = stillOpen :=
      steady later (List.mem_cons_of_mem _ member)
    have more := ih still (before ++ [read])
    rw [List.append_assoc, List.singleton_append] at more
    exact one.trans more

theorem listenerOpen_of_mem_timedReads {arrivals : List Network.Arrival} {stillOpen : Bool}
    {read : Http.TimedRead} (member : read ∈ timedReads arrivals clock stillOpen) :
    read.listenerOpen = stillOpen := by
  rw [timedReads, List.mem_append, List.mem_map] at member
  rcases member with ⟨arrival, _, rfl⟩ | last
  · cases arrival <;> rfl
  · obtain rfl := List.mem_singleton.mp last
    rfl

theorem undisturbed_timedReads (limits : Http.Limits) (caller : CallId) (world : World)
    (network : Network) (server : Handle) (endpoint : EndpointId) (deadline clock : Nat) :
    Undisturbed limits caller (.accept server) (world, .reading endpoint deadline [])
      (world, .reading endpoint deadline (timedReads (network.endpoint endpoint).arrivals clock
        (world.service.listeners.contains server))) :=
  undisturbed_reads _ rfl (fun _ member => listenerOpen_of_mem_timedReads member) []

theorem undisturbed_readRequest (room : world.service.ids.issued < UInt64.size - 1)
    (accepts : world.service.readRequest network limits clock server endpoint deadline =
      .done (.ok incoming) (service, network')) :
    ∃ world', world'.service = service ∧ Undisturbed limits caller (.accept server)
      (world, .reading endpoint deadline []) (world', .returned (.ok (.request incoming))) := by
  have reads := undisturbed_timedReads limits caller world network server endpoint deadline clock
  rw [HttpService.readRequest] at accepts
  dsimp only at accepts
  split at accepts
  · rename_i request rest read
    cases accepts
    exact ⟨_, rfl, ((reads.andThen (.parse read)).andThen (.nameRequest room)).andThen .keepRequest⟩
  · split at accepts
    · cases accepts
    · split at accepts <;> cases accepts

theorem undisturbed_readRequest_error
    (refuses : world.service.readRequest network limits clock server endpoint deadline =
      .done (.error error) (service, network')) :
    ∃ world', world'.service = service ∧ Undisturbed limits caller (.accept server)
      (world, .reading endpoint deadline []) (world', .returned (.error error)) := by
  have reads := undisturbed_timedReads limits caller world network server endpoint deadline clock
  rw [HttpService.readRequest] at refuses
  dsimp only at refuses
  split at refuses
  · cases refuses
  · rename_i failure failed
    split at refuses
    · cases refuses
    · rename_i decided
      have unreadable := reads.andThen (.look (.unreadable failed (Bool.eq_false_iff.mpr decided)))
      split at refuses
      · rename_i closed
        cases refuses
        have gone := (Bool.not_eq_true' _).mp closed
        have ends := unreadable.andThen (.look (.closedWhileReading gone))
        refine ⟨_, ?_, ends.andThen .shutDown⟩
        rfl
      · rename_i present
        cases refuses
        have rejects := unreadable.andThen (.look (.rejects (by simpa using present)))
        refine ⟨_, ?_, (rejects.andThen (.reject [] List.nil_prefix)).andThen .shutDown⟩
        rfl

/-- A connection whose request can be read gets to a program. -/
theorem undisturbed_accept {reads : List Http.TimedRead} (caller : CallId)
    (found : world.service.listeners.get server = .ok listener)
    (room : world.service.ids.issued < UInt64.size - 1)
    (fresh : world.connections endpoint = {})
    (read : Http.readRequest limits (Http.patientSource deadline reads) = .ok (request, rest))
    (steady : ∀ read ∈ reads, read.listenerOpen = true) :
    ∃ world', Undisturbed limits caller (.accept server) (world, .called)
        (world', .returned (.ok (.request (incomingOf world.service.ids.next request)))) ∧
      world'.service.requests.get? world.service.ids.next = some (contextOf endpoint request) ∧
      world'.connections endpoint =
        { accepted := true, requests := [request], handles := [world.service.ids.next] } := by
  have live : world.service.listeners.contains server = true :=
    Option.isSome_iff_exists.mpr ⟨listener, Table.get_eq_ok_iff.mp found⟩
  have polls : Undisturbed limits caller (.accept server) (world, .called)
      (world, .polling listener) := .first (.look (.polls found))
  have unseen : (world.connections endpoint).accepted = false := by rw [fresh]
  have connects := polls.andThen (.connect unseen deadline)
  have reading : Undisturbed limits caller (.accept server) (world, .called)
      (_, .reading endpoint deadline ([] ++ reads)) :=
    connects.trans (undisturbed_reads reads (by exact live) steady [])
  have parses := reading.andThen (.parse read)
  refine ⟨_, (parses.andThen (.nameRequest room)).andThen .keepRequest, Table.get?_store .., ?_⟩
  simp [World.note, fresh]

/-- A request that waits for an answer can be answered. -/
theorem undisturbed_answer (caller : CallId)
    (found : world.service.requests.get? handle = some context)
    (checked : Http.statusOf status = .ok code) (valid : headers.validate = .ok ()) (body : Bytes) :
    ∃ world', Undisturbed limits caller (.respond handle status headers body) (world, .called)
        (world', .returned (.ok .done)) ∧
      world'.connections context.endpoint =
        { world.connections context.endpoint with
          takers := (world.connections context.endpoint).takers ++ [caller]
          written := (world.connections context.endpoint).written ++
            [(Http.Response.mk context.version code headers body).toBytes context.headOnly]
          shut := true } := by
  have taken := Table.take?_eq_some_iff.mpr ⟨found, rfl⟩
  have takes : Undisturbed limits caller (.respond handle status headers body) (world, .called) _ :=
    .first (.take checked valid taken)
  refine ⟨_, (takes.andThen .write).andThen .shutDown, ?_⟩
  simp [World.note]

/-- Whatever request can be read is answered in some run. -/
theorem exists_reachable_served {status : Int} {headers : Http.Headers}
    {reads : List Http.TimedRead}
    (read : Http.readRequest limits (Http.patientSource deadline reads) = .ok (request, rest))
    (steady : ∀ read ∈ reads, read.listenerOpen = true)
    (checked : Http.statusOf status = .ok code) (valid : headers.validate = .ok ())
    (endpoint : EndpointId) (body : Bytes) :
    ∃ state handle, State.Reachable limits state ∧ state.world.connections endpoint =
      { accepted := true, requests := [request], handles := [handle], takers := [2],
        written := [(responseTo request code headers body).toBytes
          (Text.equalIgnoringCase request.method "HEAD")],
        shut := true } := by
  have empty : ({} : World).service.ids.issued < UInt64.size - 1 := by decide
  obtain ⟨listening, listens, found, issued, fresh⟩ : ∃ listening : World,
      Undisturbed limits 0 (.listen "" 0) ({}, .called)
        (listening, .returned (.ok (.handle ({} : Allocator).next))) ∧
      listening.service.listeners.get ({} : Allocator).next = .ok 0 ∧
      listening.service.ids.issued = 1 ∧ listening.connections endpoint = {} :=
    ⟨_, undisturbed_bind limits 0 "" 0 (rfl : portOf 0 = .ok 0) empty,
      Table.get_eq_ok_iff.mpr (Table.get?_store ..), rfl, rfl⟩
  have listened := listens.start (rfl : ({} : State).calls 0 = none)
  have room : listening.service.ids.issued < UInt64.size - 1 := by
    rw [issued]
    decide
  obtain ⟨accepting, accepts, waits, kept⟩ := undisturbed_accept 1 found room fresh read steady
  have accepted := listened.trans (accepts.start rfl)
  obtain ⟨answering, answers, answered⟩ := undisturbed_answer 2 waits checked valid body
  have served := accepted.trans (answers.start rfl)
  refine ⟨_, listening.service.ids.next, served, answered.trans ?_⟩
  simp [contextOf, responseTo, kept]

end ScriptHost.HttpService
