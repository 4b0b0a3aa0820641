import ScriptHost.Proofs.Http.RequestExtent
import ScriptHost.Service.Http

/-!
When a slow peer is too late. Only a read that finds nothing is held against the deadline, so it
does not matter when the bytes of a request come. A request is read unless some read in front of its
last byte finds nothing once the deadline has passed or the listener is gone.
-/
namespace ScriptHost.Http

namespace TimedRead

/-- The bytes that a read brings. -/
def bytes (read : TimedRead) : Bytes :=
  match read.outcome with
  | .data bytes => bytes
  | _ => []

/-- Whether a read found that nothing has come. -/
def FindsNothing (read : TimedRead) : Prop :=
  read.outcome = .wouldBlock ∨ read.outcome = .timedOut

/-- Another read follows: this one was interrupted, or it found nothing in time and with the
listener open. -/
def Waits (deadline : Nat) (read : TimedRead) : Prop :=
  read.outcome = .interrupted ∨
    read.FindsNothing ∧ read.listenerOpen = true ∧ read.clock < deadline

/-- What a read gives that no other follows. -/
inductive Settles (deadline : Nat) (read : TimedRead) : Except IoCause Bytes → Prop where
  | data {block : Bytes} (came : read.outcome = .data block) : Settles deadline read (.ok block)
  | endOfStream (ended : read.outcome = .endOfStream) : Settles deadline read (.ok [])
  | failure (failed : read.outcome = .failure cause) : Settles deadline read (.error cause)
  | listenerClosed (nothing : read.FindsNothing) (closed : read.listenerOpen = false) :
      Settles deadline read (.error .listenerClosed)
  | notInTime (nothing : read.FindsNothing) (isOpen : read.listenerOpen = true)
      (late : deadline ≤ read.clock) : Settles deadline read (.error .notInTime)

/-- The read does not end the reading of a request. -/
def Onward (deadline : Nat) (read : TimedRead) : Prop := read.Waits deadline ∨ read.bytes ≠ []

end TimedRead

/-- The bytes that reads bring one after the other. -/
def brought (reads : List TimedRead) : Bytes := reads.flatMap TimedRead.bytes

/-- The source that begins with what a read gave. -/
def Source.begunBy (later : Source) : Except IoCause Bytes → Source
  | .ok [] => ⟨[], .closed⟩
  | .ok bytes => later.behind bytes
  | .error cause => ⟨[], .failed cause⟩

section

variable {deadline : Nat} {read : TimedRead} {reads arrival later : List TimedRead}

theorem TimedRead.bytes_of_waits (waits : read.Waits deadline) : read.bytes = [] := by
  rcases waits with interrupted | ⟨blocked | timedOut, _⟩ <;> simp_all [TimedRead.bytes]

theorem TimedRead.waits_or_settles (deadline : Nat) (read : TimedRead) :
    read.Waits deadline ∨ ∃ outcome, read.Settles deadline outcome := by
  have idle (nothing : read.FindsNothing) :
      read.Waits deadline ∨ ∃ outcome, read.Settles deadline outcome := by
    cases isOpen : read.listenerOpen with
    | false => exact .inr ⟨_, .listenerClosed nothing isOpen⟩
    | true =>
      rcases Nat.lt_or_ge read.clock deadline with early | late
      · exact .inl (.inr ⟨nothing, isOpen, early⟩)
      · exact .inr ⟨_, .notInTime nothing isOpen late⟩
  cases outcome : read.outcome with
  | data bytes => exact .inr ⟨_, .data outcome⟩
  | wouldBlock => exact idle (.inl outcome)
  | timedOut => exact idle (.inr outcome)
  | interrupted => exact .inl (.inl outcome)
  | endOfStream => exact .inr ⟨_, .endOfStream outcome⟩
  | failure cause => exact .inr ⟨_, .failure outcome⟩

theorem patientRead_of_waits (waits : read.Waits deadline) (rest : List TimedRead) :
    patientRead deadline (read :: rest) = patientRead deadline rest := by
  rcases waits with interrupted | ⟨blocked | timedOut, isOpen, early⟩ <;> simp_all [patientRead]

theorem patientRead_of_settles (settles : read.Settles deadline outcome) (rest : List TimedRead) :
    patientRead deadline (read :: rest) = some (outcome, read.clock, rest) := by
  cases settles with
  | data came => simp [patientRead, came]
  | endOfStream ended => simp [patientRead, ended]
  | failure failed => simp [patientRead, failed]
  | listenerClosed nothing closed =>
    rcases nothing with blocked | timedOut <;> simp_all [patientRead]
  | notInTime nothing isOpen late =>
    rcases nothing with blocked | timedOut <;> simp_all [patientRead]

/-- A reader gives what the first read settles behind which it does not wait. -/
theorem patientRead_eq_some_iff {outcome : Except IoCause Bytes} {clock : Nat} :
    patientRead deadline reads = some (outcome, clock, later) ↔
      ∃ waited last, reads = waited ++ last :: later ∧
        (∀ read ∈ waited, read.Waits deadline) ∧ last.Settles deadline outcome ∧
          last.clock = clock := by
  constructor
  · intro given
    induction reads with
    | nil => cases given
    | cons read rest ih =>
      rcases read.waits_or_settles deadline with waits | ⟨settled, settles⟩
      · rw [patientRead_of_waits waits] at given
        obtain ⟨waited, last, rfl, all, found⟩ := ih given
        exact ⟨read :: waited, last, rfl, List.forall_mem_cons.mpr ⟨waits, all⟩, found⟩
      · rw [patientRead_of_settles settles] at given
        cases given
        exact ⟨[], read, rfl, by simp, settles, rfl⟩
  · rintro ⟨waited, last, rfl, all, settles, rfl⟩
    induction waited with
    | nil => exact patientRead_of_settles settles later
    | cons read waited ih =>
      obtain ⟨waits, others⟩ := List.forall_mem_cons.mp all
      rw [List.cons_append, patientRead_of_waits waits]
      exact ih others

theorem patientSource_of_waits (waits : read.Waits deadline) (rest : List TimedRead) :
    patientSource deadline (read :: rest) = patientSource deadline rest := by
  rcases waits with interrupted | ⟨blocked | timedOut, isOpen, early⟩ <;> simp_all [patientSource]

/-- A source is what a reader gives read by read. -/
theorem patientSource_of_settles (settles : read.Settles deadline outcome)
    (rest : List TimedRead) :
    patientSource deadline (read :: rest) = (patientSource deadline rest).begunBy outcome := by
  cases settles with
  | @data block came => cases block <;> simp [patientSource, came, Source.begunBy, Source.behind]
  | endOfStream ended => simp [patientSource, ended, Source.begunBy]
  | failure failed => simp [patientSource, failed, Source.begunBy]
  | listenerClosed nothing closed =>
    rcases nothing with blocked | timedOut <;> simp_all [patientSource, Source.begunBy]
  | notInTime nothing isOpen late =>
    rcases nothing with blocked | timedOut <;> simp_all [patientSource, Source.begunBy]

theorem patientSource_of_onward (onward : read.Onward deadline) (rest : List TimedRead) :
    patientSource deadline (read :: rest) = (patientSource deadline rest).behind read.bytes := by
  rcases onward with waits | some
  · rw [patientSource_of_waits waits, TimedRead.bytes_of_waits waits]
    rfl
  · cases outcome : read.outcome with
    | data bytes =>
      have same : read.bytes = bytes := by rw [TimedRead.bytes, outcome]
      obtain ⟨byte, more, rfl⟩ := List.exists_cons_of_ne_nil (same ▸ some)
      rw [patientSource_of_settles (.data outcome), same]
      rfl
    | _ => simp [TimedRead.bytes, outcome] at some

theorem patientSource_append (onward : ∀ read ∈ arrival, read.Onward deadline)
    (later : List TimedRead) :
    patientSource deadline (arrival ++ later) =
      (patientSource deadline later).behind (brought arrival) := by
  induction arrival with
  | nil => rfl
  | cons read arrival ih =>
    obtain ⟨first, others⟩ := List.forall_mem_cons.mp onward
    rw [List.cons_append, patientSource_of_onward first, ih others, ← Source.behind_append]
    rfl

/-- What a source holds is what the reads brought up to one that ends the reading. -/
theorem exists_arrival (deadline : Nat) (reads : List TimedRead) :
    ∃ arrival later, reads = arrival ++ later ∧ (∀ read ∈ arrival, read.Onward deadline) ∧
      (patientSource deadline reads).bytes = brought arrival := by
  induction reads with
  | nil => exact ⟨[], [], rfl, by simp, rfl⟩
  | cons read rest ih =>
    obtain ⟨arrival, later, split, all, same⟩ := ih
    by_cases onward : read.Onward deadline
    · refine ⟨read :: arrival, later, congrArg (read :: ·) split,
        List.forall_mem_cons.mpr ⟨onward, all⟩, ?_⟩
      rw [patientSource_of_onward onward]
      exact congrArg (read.bytes ++ ·) same
    · obtain ⟨outcome, settles⟩ :=
        (read.waits_or_settles deadline).resolve_left fun waits => onward (.inl waits)
      refine ⟨[], read :: rest, rfl, by simp, ?_⟩
      rw [patientSource_of_settles settles]
      cases settles with
      | @data block came =>
        have same : read.bytes = block := by rw [TimedRead.bytes, came]
        have nothing : block = [] := by_contra fun some => onward (.inr (same ▸ some))
        rw [nothing]
        rfl
      | _ => rfl

end

section

variable {limits : Limits} {request : Request} {deadline : Nat} {reads : List TimedRead}

/-- What comes behind the bytes of a request has no part in reading it. -/
theorem exists_readRequest_behind {bytes : Bytes} {ending : Ending}
    (read : ∃ rest, readRequest limits ⟨bytes, ending⟩ = .ok (request, rest)) (tail : Source) :
    ∃ rest, readRequest limits (tail.behind bytes) = .ok (request, rest) := by
  obtain ⟨rest, read⟩ := read
  obtain ⟨taken, source, same⟩ := readRequest_behind read
  have split : bytes = taken ++ rest.bytes := congrArg Source.bytes source
  exact ⟨_, by rw [split, Source.behind_append]; exact same _⟩

/-- A request is read exactly if reads behind which the reading goes on bring its bytes. -/
theorem exists_readRequest_patientSource_iff :
    (∃ rest, readRequest limits (patientSource deadline reads) = .ok (request, rest)) ↔
      ∃ arrival later, reads = arrival ++ later ∧ (∀ read ∈ arrival, read.Onward deadline) ∧
        ∃ rest, readRequest limits ⟨brought arrival, .closed⟩ = .ok (request, rest) := by
  constructor
  · intro read
    obtain ⟨arrival, later, split, onward, same⟩ := exists_arrival deadline reads
    refine ⟨arrival, later, split, onward, ?_⟩
    have here : ∃ rest, readRequest limits
        (Source.behind ⟨[], .closed⟩ (patientSource deadline reads).bytes) = .ok (request, rest) :=
      exists_readRequest_behind read _
    rwa [same, Source.behind, List.append_nil] at here
  · rintro ⟨arrival, later, rfl, onward, read⟩
    rw [patientSource_append onward]
    exact exists_readRequest_behind read _

end

section

variable {service : HttpService} {network : Network} {limits : Limits} {server : Handle}
  {endpoint : Network.EndpointId}

/-- The service takes the request that an endpoint has sent. -/
def Accepts (service : HttpService) (network : Network) (limits : Limits) (server : Handle)
    (endpoint : Network.EndpointId) (clock deadline : Nat) : Prop :=
  ∃ incoming after,
    service.readRequest network limits clock server endpoint deadline = .done (.ok incoming) after

theorem accepts_iff {clock deadline : Nat} :
    Accepts service network limits server endpoint clock deadline ↔
      ∃ request rest, readRequest limits (patientSource deadline (HttpService.timedReads
        (network.endpoint endpoint).arrivals clock (service.listeners.contains server))) =
          .ok (request, rest) := by
  rw [Accepts]
  simp only [HttpService.readRequest]
  constructor
  · rintro ⟨incoming, after, accepted⟩
    split at accepted
    · exact ⟨_, _, ‹_›⟩
    · split at accepted
      · cases accepted
      · split at accepted <;> cases accepted
  · rintro ⟨request, rest, read⟩
    rw [read]
    exact ⟨_, _, rfl⟩

/-- What has arrived is read whatever the time. -/
theorem bytes_patientSource_timedReads (arrivals : List Network.Arrival) (listenerOpen : Bool)
    (clock clock' deadline deadline' : Nat) :
    (patientSource deadline (HttpService.timedReads arrivals clock listenerOpen)).bytes =
      (patientSource deadline' (HttpService.timedReads arrivals clock' listenerOpen)).bytes := by
  have idle (clock deadline : Nat) :
      (patientSource deadline [⟨.wouldBlock, clock, listenerOpen⟩]).bytes = [] := by
    simp only [patientSource]
    split
    · rfl
    · split <;> rfl
  induction arrivals with
  | nil => exact (idle clock deadline).trans (idle clock' deadline').symm
  | cons arrival arrivals ih =>
    cases arrival with
    | data block => cases block with
      | nil => rfl
      | cons byte more => exact congrArg (byte :: more ++ ·) ih
    | endOfStream => rfl
    | failure cause => rfl

theorem accepts_iff_accepts (clock clock' deadline deadline' : Nat) :
    Accepts service network limits server endpoint clock deadline ↔
      Accepts service network limits server endpoint clock' deadline' := by
  have still (clock clock' deadline deadline' : Nat)
      (accepted : Accepts service network limits server endpoint clock deadline) :
      Accepts service network limits server endpoint clock' deadline' := by
    obtain ⟨request, rest, read⟩ := accepts_iff.mp accepted
    have same := bytes_patientSource_timedReads (network.endpoint endpoint).arrivals
      (service.listeners.contains server) clock clock' deadline deadline'
    refine accepts_iff.mpr ⟨request, ?_⟩
    let later := patientSource deadline' (HttpService.timedReads
      (network.endpoint endpoint).arrivals clock' (service.listeners.contains server))
    have here := exists_readRequest_behind ⟨rest, read⟩ ⟨[], later.ending⟩
    rwa [same, Source.behind, List.append_nil] at here
  exact ⟨still _ _ _ _, still _ _ _ _⟩

end

/-- The deadline is held against pauses alone. A read gives data at whatever time it comes, and it
fails for want of time exactly if it finds nothing past the deadline. A request is read exactly if
its bytes come and no read in front of the last of them finds nothing past the deadline or behind the
close of the listener; and a service takes a request that has come whole at any time. -/
theorem deadline_bars_only_pauses (limits : Limits) (deadline : Nat) :
    (∀ reads outcome clock later, patientRead deadline reads = some (outcome, clock, later) ↔
      ∃ waited last, reads = waited ++ last :: later ∧ (∀ read ∈ waited, read.Waits deadline) ∧
        last.Settles deadline outcome ∧ last.clock = clock) ∧
    (∀ reads request,
      (∃ rest, readRequest limits (patientSource deadline reads) = .ok (request, rest)) ↔
        ∃ arrival later, reads = arrival ++ later ∧ (∀ read ∈ arrival, read.Onward deadline) ∧
          ∃ rest, readRequest limits ⟨brought arrival, .closed⟩ = .ok (request, rest)) ∧
    ∀ service network server endpoint clock clock' deadline',
      Accepts service network limits server endpoint clock deadline ↔
        Accepts service network limits server endpoint clock' deadline' :=
  ⟨fun _ _ _ _ => patientRead_eq_some_iff, fun _ _ => exists_readRequest_patientSource_iff,
    fun _ _ _ _ clock clock' deadline' => accepts_iff_accepts clock clock' deadline deadline'⟩

/-- A peer sends one byte every ten milliseconds, so its request is complete when the deadline of a
hundred milliseconds has long passed. It is served all the same. -/
theorem accepts_dripped_request :
    let head : Head := ⟨0, "GET", "/", .http10, [⟨"Host", " x"⟩]⟩
    let drip : List TimedRead := (crlf head.lines).zipIdx.map fun (byte, index) =>
      ⟨.data [byte], 10 * index, true⟩
    let server : Handle := ({} : Allocator).next
    let service : HttpService := { listeners := Table.store { kind := .httpListener } server 0 }
    let network : Network :=
      { endpoints := #[{ port := 1, arrivals := [.data (crlf head.lines)] }] }
    drip.Pairwise (fun earlier later => earlier.clock ≤ later.clock) ∧
      (∃ late ∈ drip, 100 ≤ late.clock ∧
        patientRead 100 [late] = some (.ok late.bytes, late.clock, [])) ∧
      (∃ rest, readRequest {} (patientSource 100 drip) = .ok (head.request [], rest)) ∧
      Accepts service network {} server 0 260 100 := by
  intro head drip server service network
  have accepted : head.Accepted {} (crlf head.lines) :=
    ⟨by decide, by decide, by decide, by decide, lines_crlf (by decide), by decide⟩
  have body : readBody (Headers.ofFields head.fields) {} ⟨[], .closed⟩ = .ok ([], ⟨[], .closed⟩) :=
    (readBody_lengthFramed_iff (by decide)).mpr ⟨.none (by decide), Nat.zero_le _, rfl⟩
  have read : ∃ rest, readRequest {} ⟨crlf head.lines, .closed⟩ = .ok (head.request [], rest) := by
    have split := readRequest_of_accepted accepted ⟨[], .closed⟩
    rw [Source.behind, List.append_nil] at split
    exact ⟨⟨[], .closed⟩, by rw [split, body]; rfl⟩
  have bytes : brought drip = crlf head.lines := by decide
  refine ⟨by decide, ⟨⟨.data [10], 260, true⟩, by decide, by decide, rfl⟩, ?_, ?_⟩
  · refine exists_readRequest_patientSource_iff.mpr ⟨drip, [], (List.append_nil drip).symm, ?_, ?_⟩
    · intro read member
      obtain ⟨⟨byte, index⟩, -, rfl⟩ := List.mem_map.mp member
      exact .inr (List.cons_ne_nil byte [])
    · rwa [bytes]
  · refine accepts_iff.mpr ⟨head.request [], exists_readRequest_patientSource_iff.mpr ?_⟩
    refine ⟨[⟨.data (crlf head.lines), 260, true⟩], [⟨.wouldBlock, 260, true⟩], rfl, ?_, ?_⟩
    · simp only [List.mem_singleton, forall_eq]
      exact .inr (by decide)
    · rwa [brought, List.flatMap_singleton]

end ScriptHost.Http
