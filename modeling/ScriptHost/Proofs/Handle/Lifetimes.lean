import ScriptHost.Proofs.Handle.ServiceCalls
import ScriptHost.Proofs.Handle.Transfers

/-! A handle lives from the call that gives it to the call that closes what it stands for or answers
it. In any run of calls one after another, the tables hold what the calls so far have given and not
ended, and handles are never given twice. -/
namespace ScriptHost

/-- A run of calls one after another, from services that have issued nothing. Between two calls the
rest of the world changes in any way, and while a call waits it changes in certain ways. -/
inductive Session (moves : World → World → Prop) (env : Environment) :
    List ServiceCall → World → Prop
  | start (files : world.files = {}) (sockets : world.sockets = {}) (http : world.http = {}) :
      Session moves env [] world
  | call (session : Session moves env calls world) (rested : world.Rests call.before)
      (made : call.Made moves env) : Session moves env (calls ++ [call]) call.after

/-! What the calls of a run say about handles. -/

def Issued (calls : List ServiceCall) (kind : ResourceKind) (handle : Handle) : Prop :=
  ∃ call ∈ calls, call.Issues kind handle

def IssuedFor (calls : List ServiceCall) (kind : ResourceKind) (handle : Handle)
    (holding : Holding) : Prop :=
  ∃ call ∈ calls, call.Issues kind handle ∧ call.after.held kind handle = some holding

def Retired (calls : List ServiceCall) (service : Service) (handle : Handle) : Prop :=
  ∃ call ∈ calls, call.Retires service handle

/-- A call gave the handle for the resource, and none has retired it. -/
structure Live (calls : List ServiceCall) (kind : ResourceKind) (handle : Handle)
    (holding : Holding) : Prop where
  issued : IssuedFor calls kind handle holding
  unretired : ¬Retired calls kind.service handle

private theorem exists_mem_snoc {calls : List ServiceCall} {holds : ServiceCall → Prop} :
    (∃ call ∈ calls ++ [last], holds call) ↔ (∃ call ∈ calls, holds call) ∨ holds last := by
  simp only [List.mem_append, List.mem_singleton, or_and_right, exists_or, exists_eq_left]

theorem issued_snoc : Issued (calls ++ [call]) kind handle ↔
    Issued calls kind handle ∨ call.Issues kind handle := exists_mem_snoc

theorem issuedFor_snoc : IssuedFor (calls ++ [call]) kind handle holding ↔
    IssuedFor calls kind handle holding ∨
      call.Issues kind handle ∧ call.after.held kind handle = some holding := exists_mem_snoc

theorem retired_snoc : Retired (calls ++ [call]) service handle ↔
    Retired calls service handle ∨ call.Retires service handle := exists_mem_snoc

theorem IssuedFor.issued (issued : IssuedFor calls kind handle holding) :
    Issued calls kind handle := by
  obtain ⟨call, member, issues, _⟩ := issued
  exact ⟨call, member, issues⟩

/-- A call that gives no such handle leaves it alive unless it retires it. -/
theorem live_snoc_of_not_issues (issues : ¬call.Issues kind handle) :
    Live (calls ++ [call]) kind handle holding ↔
      Live calls kind handle holding ∧ ¬call.Retires kind.service handle := by
  constructor
  · intro live
    obtain ⟨unretired, kept⟩ := not_or.mp (mt retired_snoc.mpr live.unretired)
    refine ⟨⟨?_, unretired⟩, kept⟩
    exact (issuedFor_snoc.mp live.issued).resolve_right fun now => issues now.1
  · intro live
    obtain ⟨live, kept⟩ := live
    refine ⟨issuedFor_snoc.mpr (.inl live.issued), ?_⟩
    exact mt retired_snoc.mp (not_or.mpr ⟨live.unretired, kept⟩)

theorem Ledger.id_next {ledger : Ledger} (room : ledger.issued service < UInt64.size - 1) :
    (ledger.next service).id = ledger.issued service + 1 := Handle.id_afterIssuing room

/-- The handles that a service has given go up to its counter, and each was given for one kind of
resource. -/
structure Numbered (calls : List ServiceCall) (ledger : Ledger) : Prop where
  issued : ∀ kind handle, Issued calls kind handle → handle.id ≤ ledger.issued kind.service
  retired : ∀ service handle, Retired calls service handle → handle.id ≤ ledger.issued service
  single : ∀ kind other handle, Issued calls kind handle → Issued calls other handle →
    kind.service = other.service → kind = other

namespace Numbered

theorem next_not_issued (numbered : Numbered calls ledger)
    (room : ledger.issued service < UInt64.size - 1) (same : kind.service = service) :
    ¬Issued calls kind (ledger.next service) := by
  intro issued
  have bound := numbered.issued _ _ issued
  rw [Ledger.id_next room, same] at bound
  omega

theorem next_not_retired (numbered : Numbered calls ledger)
    (room : ledger.issued service < UInt64.size - 1) :
    ¬Retired calls service (ledger.next service) := by
  intro retired
  have bound := numbered.retired _ _ retired
  rw [Ledger.id_next room] at bound
  omega

/-- A call that gives no handle. -/
theorem snoc (numbered : Numbered calls ledger) (counted : after.issued = ledger.issued)
    (issues : ∀ kind handle, ¬call.Issues kind handle)
    (retires : ∀ service handle, call.Retires service handle →
      handle.id ≤ ledger.issued service) : Numbered (calls ++ [call]) after := by
  have earlier : ∀ {kind handle}, Issued (calls ++ [call]) kind handle →
      Issued calls kind handle := by
    intro kind handle issued
    exact (issued_snoc.mp issued).resolve_right (issues kind handle)
  refine ⟨fun kind handle now => ?_, fun service handle now => ?_,
    fun kind other handle first second => ?_⟩
  · rw [counted]
    exact numbered.issued _ _ (earlier now)
  · rw [counted]
    cases retired_snoc.mp now with
    | inl before => exact numbered.retired _ _ before
    | inr now => exact retires _ _ now
  · exact numbered.single kind other handle (earlier first) (earlier second)

theorem snoc_issued (numbered : Numbered calls ledger)
    (room : ledger.issued kind.service < UInt64.size - 1)
    (issues : ∀ other handle, call.Issues other handle ↔
      other = kind ∧ handle = ledger.next kind.service)
    (retires : ∀ service handle, ¬call.Retires service handle) :
    Numbered (calls ++ [call]) (ledger.keep kind holding) := by
  have grown : ∀ service, ledger.issued service ≤ (ledger.keep kind holding).issued service := by
    intro service
    dsimp only [Ledger.keep]
    split <;> omega
  refine ⟨fun other handle now => ?_, fun service handle now => ?_,
    fun first second handle one two same => ?_⟩
  · cases issued_snoc.mp now with
    | inl earlier => exact (numbered.issued _ _ earlier).trans (grown other.service)
    | inr now =>
      obtain ⟨rfl, rfl⟩ := (issues _ _).mp now
      simp [Ledger.id_next room, Ledger.keep]
  · have earlier := (retired_snoc.mp now).resolve_right (retires service handle)
    exact (numbered.retired _ _ earlier).trans (grown service)
  · cases issued_snoc.mp one with
    | inl earlier =>
      cases issued_snoc.mp two with
      | inl earlier' => exact numbered.single _ _ _ earlier earlier' same
      | inr now =>
        obtain ⟨rfl, rfl⟩ := (issues _ _).mp now
        exact absurd earlier (numbered.next_not_issued room same)
    | inr now =>
      obtain ⟨rfl, rfl⟩ := (issues _ _).mp now
      cases issued_snoc.mp two with
      | inl earlier => exact absurd earlier (numbered.next_not_issued room same.symm)
      | inr now => exact ((issues _ _).mp now).1.symm

end Numbered

/-- What the services hold after a run of calls, told from the calls. -/
structure Tracked (env : Environment) (calls : List ServiceCall) (ledger : Ledger) : Prop where
  numbered : Numbered calls ledger
  live : ∀ kind handle holding, ledger.held kind handle = some holding ↔
    Live calls kind handle holding
  provided : ∀ kind handle holding, ledger.held kind handle = some holding →
    env.provides kind.service = true

namespace Tracked

theorem start : Tracked env [] ⟨fun _ _ => none, fun _ => 0⟩ where
  numbered := ⟨by simp [Issued], by simp [Retired], by simp [Issued]⟩
  live _ _ _ := ⟨nofun, fun live => by obtain ⟨_, ⟨⟩, _⟩ := live.issued⟩
  provided _ _ _ := nofun

theorem isProvided {world : World} (tracked : Tracked env calls world.ledger) :
    world.Provided env := by
  intro kind handle held
  obtain ⟨holding, held⟩ := Option.isSome_iff_exists.mp held
  exact tracked.provided kind handle holding held

/-- A handle of a service stands for one kind of resource. -/
theorem eq_of_held (tracked : Tracked env calls ledger)
    (first : ledger.held kind handle = some holding)
    (second : ledger.held other handle = some holding')
    (same : kind.service = other.service) : kind = other :=
  tracked.numbered.single kind other handle ((tracked.live ..).mp first).issued.issued
    ((tracked.live ..).mp second).issued.issued same

theorem same (tracked : Tracked env calls ledger)
    (issues : ∀ kind handle, ¬call.Issues kind handle)
    (retires : ∀ service handle, ¬call.Retires service handle) :
    Tracked env (calls ++ [call]) ledger where
  numbered := tracked.numbered.snoc rfl issues fun service handle now =>
    absurd now (retires service handle)
  live kind handle holding := by
    rw [tracked.live, live_snoc_of_not_issues (issues kind handle),
      and_iff_left (retires kind.service handle)]
  provided := tracked.provided

theorem keep (tracked : Tracked env calls ledger)
    (kept : call.after.ledger = ledger.keep kind holding)
    (provided : env.provides kind.service = true)
    (room : ledger.issued kind.service < UInt64.size - 1)
    (issues : ∀ other handle, call.Issues other handle ↔
      other = kind ∧ handle = ledger.next kind.service)
    (retires : ∀ service handle, ¬call.Retires service handle) :
    Tracked env (calls ++ [call]) (ledger.keep kind holding) where
  numbered := tracked.numbered.snoc_issued room issues retires
  live other handle holding' := by
    by_cases given : other = kind ∧ handle = ledger.next kind.service
    · -- The handle is new, so no call before gave or retired it.
      obtain ⟨rfl, rfl⟩ := given
      rw [← kept]
      constructor
      · intro held
        refine ⟨issuedFor_snoc.mpr (.inr ⟨(issues _ _).mpr ⟨rfl, rfl⟩, held⟩), ?_⟩
        refine mt retired_snoc.mp (not_or.mpr ⟨?_, retires _ _⟩)
        exact tracked.numbered.next_not_retired room
      · intro live
        cases issuedFor_snoc.mp live.issued with
        | inl earlier =>
          exact absurd earlier.issued (tracked.numbered.next_not_issued room rfl)
        | inr now => exact now.2
    · rw [live_snoc_of_not_issues (mt (issues _ _).mp given), and_iff_left (retires _ _),
        ← tracked.live]
      simp only [Ledger.keep, given, if_false]
  provided other handle holding' held := by
    dsimp only [Ledger.keep] at held
    split at held
    · rename_i here
      rw [here.1]
      exact provided
    · exact tracked.provided _ _ _ held

theorem drop (tracked : Tracked env calls ledger) (held : ledger.held kind handle = some holding)
    (issues : ∀ other named, ¬call.Issues other named)
    (retires : ∀ service named, call.Retires service named ↔
      service = kind.service ∧ named = handle) :
    Tracked env (calls ++ [call]) (ledger.drop kind handle) where
  numbered := by
    refine tracked.numbered.snoc rfl issues fun service named now => ?_
    obtain ⟨rfl, rfl⟩ := (retires _ _).mp now
    exact tracked.numbered.issued _ _ ((tracked.live ..).mp held).issued.issued
  live other named holding' := by
    rw [live_snoc_of_not_issues (issues other named), ← tracked.live, retires]
    dsimp only [Ledger.drop]
    split
    · rename_i here
      obtain ⟨rfl, rfl⟩ := here
      simp
    · rename_i apart
      -- The handle of another kind is another handle or one of another service.
      rw [iff_self_and]
      intro held' same
      obtain ⟨service, rfl⟩ := same
      exact apart ⟨tracked.eq_of_held held' held service, rfl⟩
  provided other named holding' held' := by
    dsimp only [Ledger.drop] at held'
    split at held'
    · cases held'
    · exact tracked.provided _ _ _ held'

theorem snoc (tracked : Tracked env calls call.before.ledger) (effect : call.Effect env) :
    Tracked env (calls ++ [call]) call.after.ledger := by
  cases effect with
  | same kept issues retires =>
    rw [kept]
    exact tracked.same issues retires
  | issued kept provided room issues retires =>
    rw [kept]
    exact tracked.keep kept provided room issues retires
  | retired held dropped issues retires =>
    rw [dropped]
    exact tracked.drop held issues retires

end Tracked

theorem World.ledger_of_empty {world : World} (files : world.files = {})
    (sockets : world.sockets = {}) (http : world.http = {}) :
    world.ledger = ⟨fun _ _ => none, fun _ => 0⟩ := by
  apply Ledger.ext
  · funext kind handle
    cases kind <;> simp only [ledger, held, files, sockets, http] <;> rfl
  · funext service
    cases service <;> simp only [ledger, issued, files, sockets, http]

/-- At every point of a run, the services hold what its calls have given and not retired. -/
theorem Session.tracked (session : Session moves env calls world) (keeping : Keeping moves) :
    Tracked env calls world.ledger := by
  induction session with
  | start files sockets http =>
    rw [World.ledger_of_empty files sockets http]
    exact .start
  | call _ rested made tracked =>
    rw [← rested.ledger] at tracked
    exact tracked.snoc (made.effect keeping tracked.isProvided)

namespace ServiceCall

variable (call : ServiceCall) (calls : List ServiceCall)

/-- The call names a live handle of a kind that it takes. -/
structure ReachesAs (kind : ResourceKind) (handle : Handle) (holding : Holding) : Prop where
  names : call.Names handle
  member : kind ∈ call.role.takes
  live : Live calls kind handle holding

def Reaches : Prop := ∃ kind handle holding, call.ReachesAs calls kind handle holding

/-- The call was refused for its handle and did nothing. -/
def Missed : Prop :=
  ∃ error, call.outcome = .error error ∧ error.kind = .resource ∧ call.after = call.before

/-- The arguments behind the handle were refused, and the call did nothing. -/
def Refused : Prop :=
  ∃ error, call.outcome = .error error ∧ error.kind = .contract ∧ call.after = call.before ∧
    ¬call.Sound

/-- What a call does in a run, told from the calls before it. -/
structure Obeys (moves : World → World → Prop) (env : Environment) : Prop where
  /-- The handle that a call gives was not given before by the same service, for anything. -/
  fresh : ∀ kind value, call.role.use = .issues kind → call.outcome = .ok value →
    ∃ handle, value.handle? = some handle ∧
      ∀ other, other.service = kind.service → ¬Issued calls other handle
  /-- A call succeeds only where it reaches a resource; -/
  found : ∀ value, call.outcome = .ok value → call.role.takes ≠ [] → call.Reaches calls
  /-- where it does, nothing but the system makes it fail, -/
  system : call.Sound → call.Reaches calls → ∀ error, call.outcome = .error error →
    error.kind = .io
  /-- and where it does not, it is refused. -/
  missed : call.Sound → call.role.takes ≠ [] → ¬call.Reaches calls → call.Missed
  /-- Where it reaches a resource it does its work there, unless its other arguments are refused: -/
  acts : ∀ kind handle holding, call.ReachesAs calls kind handle holding → call.Refused ∨
    call.role.Acts moves env call.args call.before kind handle holding call.outcome call.after
  /-- what it gives comes from there and what it is given goes there, -/
  transfers : ∀ kind handle holding value, call.ReachesAs calls kind handle holding →
    holding.Present call.before → call.outcome = .ok value →
      call.role.Transfers moves call.args call.before holding value call.after
  /-- and it touches no other resource. -/
  alone : ∀ kind handle holding, call.ReachesAs calls kind handle holding →
    Touches moves [holding] call.before call.after
  closes : ∀ kind handle holding, call.Sound → call.role.use = .closes →
    call.ReachesAs calls kind handle holding → call.outcome = .ok .unit ∧
      call.after = call.before.closed kind handle holding
  tellsPort : ∀ kind handle holding value, call.role.use = .tellsPort →
    call.ReachesAs calls kind handle holding → call.outcome = .ok value →
      ∃ number, holding.port? call.before.network = some number ∧ value = .ofNat number ∧
        call.after = call.before
  /-- What was closed or answered is not found again, as a resource of any kind. -/
  gone : ∀ kind handle, call.Sound → kind ∈ call.role.takes → call.Names handle →
    Retired calls kind.service handle → call.Missed
  /-- All other live handles go on standing for what they were given for. -/
  spared : ∀ kind handle holding, Live calls kind handle holding →
    ¬call.Retires kind.service handle → call.after.held kind handle = some holding

variable {call calls}

/-- A handle that was retired in its service stands for nothing there. -/
theorem Made.not_reaches (made : call.Made moves env) (member : kind ∈ call.role.takes)
    (names : call.Names handle) (retired : Retired calls kind.service handle) :
    ¬call.Reaches calls := by
  intro reaches
  obtain ⟨other, named, holding, reaches⟩ := reaches
  cases names.symm.trans reaches.names
  refine reaches.live.unretired ?_
  rwa [Role.service_eq made.known reaches.member member]

end ServiceCall

namespace Tracked

variable {call : ServiceCall} {moves : World → World → Prop}
  (tracked : Tracked env calls call.before.ledger)

include tracked

theorem reaches_iff : call.Reaches calls ↔ call.before.Finds call.role.takes call.args := by
  constructor
  · intro reaches
    obtain ⟨kind, handle, holding, reaches⟩ := reaches
    have held := (tracked.live ..).mpr reaches.live
    exact ⟨handle, reaches.names, kind, reaches.member, Option.isSome_of_mem held⟩
  · intro finds
    obtain ⟨handle, names, kind, member, held⟩ := finds
    obtain ⟨holding, held⟩ := Option.isSome_iff_exists.mp held
    exact ⟨kind, handle, holding, names, member, (tracked.live ..).mp held⟩

/-- There is only one resource that a call can reach. -/
theorem eq_of_reachesAs (made : call.Made moves env)
    (reaches : call.ReachesAs calls kind handle holding) (named : call.Names other)
    (member : kind' ∈ call.role.takes) (held : call.before.held kind' other = some holding') :
    kind' = kind ∧ other = handle ∧ holding' = holding := by
  cases reaches.names.symm.trans named
  have own := (tracked.live ..).mpr reaches.live
  cases tracked.eq_of_held held own (Role.service_eq made.known member reaches.member)
  cases own.symm.trans held
  exact ⟨rfl, rfl, rfl⟩

theorem fresh (made : call.Made moves env) (keeping : Keeping moves)
    (use : call.role.use = .issues kind) (done : call.outcome = .ok value) :
    ∃ handle, value.handle? = some handle ∧
      ∀ other, other.service = kind.service → ¬Issued calls other handle := by
  have room := made.room value kind done use
  have alters := (made.comes keeping tracked.isProvided).alters keeping tracked.isProvided
  rw [done] at alters
  generalize call.after = after at alters
  cases alters with
  | same _ issues =>
    obtain ⟨_, impossible⟩ := issues kind use
    cases impossible
  | issued use' _ carried =>
    cases use.symm.trans use'
    exact ⟨_, carried, fun other same => tracked.numbered.next_not_issued room same⟩
  | retired consumes => exact absurd consumes (Role.not_consumes_of_issues use)

/-- A call acts on the resource that it reaches. -/
theorem acts (made : call.Made moves env) (keeping : Keeping moves)
    (reaches : call.ReachesAs calls kind handle holding) :
    call.Refused ∨ call.role.Acts moves env call.args call.before kind handle holding call.outcome
      call.after := by
  have found := tracked.reaches_iff.mp ⟨_, _, _, reaches⟩
  have comes := made.comes keeping tracked.isProvided
  obtain ⟨other, kind', holding', named, member, held, acts⟩ | refused :=
    comes.acts_of_finds (List.ne_nil_of_mem reaches.member) found
  · obtain ⟨rfl, rfl, rfl⟩ := tracked.eq_of_reachesAs made reaches named member held
    exact .inr acts
  · exact .inl refused

theorem acts_of_sound (made : call.Made moves env) (keeping : Keeping moves) (sound : call.Sound)
    (reaches : call.ReachesAs calls kind handle holding) :
    call.role.Acts moves env call.args call.before kind handle holding call.outcome
      call.after := by
  refine (tracked.acts made keeping reaches).resolve_left fun refused => ?_
  obtain ⟨_, _, _, _, unsound⟩ := refused
  exact unsound sound

theorem alone (made : call.Made moves env) (keeping : Keeping moves)
    (reaches : call.ReachesAs calls kind handle holding) :
    Touches moves [holding] call.before call.after := by
  obtain ⟨_, _, _, same, _⟩ | acts := tracked.acts made keeping reaches
  · rw [same]
    exact .done
  · exact acts.touches

theorem missed (made : call.Made moves env) (keeping : Keeping moves) (sound : call.Sound)
    (taken : call.role.takes ≠ []) (astray : ¬call.Reaches calls) : call.Missed := by
  have lost := mt tracked.reaches_iff.mpr astray
  exact (made.comes keeping tracked.isProvided).missed_of_not_finds taken lost fun _ unsound =>
    unsound sound

end Tracked

namespace Role.Acts

variable {role : Role}

theorem of_closes (use : role.use = .closes)
    (acts : role.Acts moves env args before kind handle holding outcome after) :
    outcome = .ok .unit ∧ after = before.closed kind handle holding := by
  cases acts with
  | closes => exact ⟨rfl, rfl⟩
  | readsNothing use' | readsFile use' | readFails use' | writesFile use' | writeFails use'
    | receives use' | sends use' | sendFails use' | acceptFails use' | acceptsStream use'
    | acceptsRequest use' | rejects use' | tellsPort use' | answers use' | answerFails use' =>
    cases use.symm.trans use'

theorem of_tellsPort (use : role.use = .tellsPort)
    (acts : role.Acts moves env args before kind handle holding (.ok value) after) :
    ∃ number, holding.port? before.network = some number ∧ value = .ofNat number ∧
      after = before := by
  generalize ended : (.ok value : Except BuiltinError Value) = outcome at acts
  cases acts with
  | tellsPort _ port =>
    rw [localPortOf] at ended
    split at ended <;> cases ended
    exact ⟨_, port, rfl, rfl⟩
  | readsNothing use' | readsFile use' | readFails use' | writesFile use' | writeFails use'
    | receives use' | sends use' | sendFails use' | acceptFails use' | acceptsStream use'
    | acceptsRequest use' | rejects use' | closes use' | answers use' | answerFails use' =>
    cases use.symm.trans use'

end Role.Acts

/-- Whatever calls were made before and however the system answered them, a call gives a handle that
its service has not given before, reaches what the handle it names was given for until that is
retired, does its work there and touches nothing else, and is refused and does nothing otherwise. -/
theorem Session.obeys {call : ServiceCall} (keeping : Keeping moves)
    (session : Session moves env calls world) (rested : world.Rests call.before)
    (made : call.Made moves env) : call.Obeys calls moves env := by
  have tracked := session.tracked keeping
  rw [← rested.ledger] at tracked
  have provided := tracked.isProvided
  refine ⟨fun _ _ use => tracked.fresh made keeping use, ?found, ?system,
    fun sound taken => tracked.missed made keeping sound taken,
    fun _ _ _ reaches => tracked.acts made keeping reaches, ?transfers,
    fun _ _ _ reaches => tracked.alone made keeping reaches, ?closes, ?tellsPort, ?gone, ?spared⟩
  case found =>
    intro value done taken
    have comes := made.comes keeping provided
    rw [done] at comes
    exact tracked.reaches_iff.mpr (comes.finds taken)
  case system =>
    intro sound reaches error failed
    obtain ⟨_, _, _, here⟩ := reaches
    have acts := tracked.acts_of_sound made keeping sound here
    rw [failed] at acts
    exact acts.kind_of_error
  case transfers =>
    intro kind handle holding value reaches present done
    obtain ⟨_, failed, _⟩ | acts := tracked.acts made keeping reaches
    · cases done.symm.trans failed
    · rw [done] at acts
      exact acts.transfers present
  case closes =>
    intro kind handle holding sound use reaches
    exact (tracked.acts_of_sound made keeping sound reaches).of_closes use
  case tellsPort =>
    intro kind handle holding value use reaches done
    obtain ⟨_, failed, _⟩ | acts := tracked.acts made keeping reaches
    · cases done.symm.trans failed
    · rw [done] at acts
      exact acts.of_tellsPort use
  case gone =>
    intro kind handle sound member names retired
    exact tracked.missed made keeping sound (List.ne_nil_of_mem member)
      (made.not_reaches member names retired)
  case spared =>
    intro kind handle holding live kept
    have after := tracked.snoc (made.effect keeping provided)
    refine (after.live ..).mpr ⟨issuedFor_snoc.mpr (.inl live.issued), ?_⟩
    exact mt retired_snoc.mp (not_or.mpr ⟨live.unretired, kept⟩)

/-! A listening socket is opened and closed, and closed again. -/

namespace ServiceCall

private def opening : ServiceCall where
  builtin := Builtins.Sockets.listen
  role := { use := .issues .listener }
  args := [.string "localhost", .int 0]
  before := {}
  outcome := .ok (.ofHandle (.afterIssuing 0))
  after := {
    sockets := (SocketService.addListener {} 0).2
    network := { listeners := #[{ port := 32768 }], nextPort := 32769 } }

private def closing : ServiceCall where
  builtin := Builtins.Sockets.close
  role := { takes := [.socket, .listener], use := .closes }
  args := [.ofHandle (.afterIssuing 0)]
  before := opening.after
  outcome := .ok .unit
  after := opening.after.closed .listener (.afterIssuing 0) (.listener 0)

private def closingAgain : ServiceCall :=
  { closing with
    before := closing.after
    outcome := .error (.host (.notFound .socket 1)) }

/-- A call by the name of its builtin. -/
private theorem made_by_name {call : ServiceCall} (known : (call.builtin, call.role) ∈ Role.all)
    (isFunction : Registry.methodKey? call.builtin.signature = none)
    (room : ∀ kind, call.role.use = .issues kind →
      call.before.issued kind.service < UInt64.size - 1)
    (returned : Returns World.Keeps env (call.builtin.call env call.args) call.before call.outcome
      call.after) : call.Made World.Keeps env where
  known := known
  returned := by
    have standard : call.builtin ∈ standardBuiltins := by
      have member : call.builtin ∈ Role.all.map Prod.fst := List.mem_map.mpr ⟨_, known, rfl⟩
      rw [Role.map_fst_all] at member
      simp only [standardBuiltins, List.mem_append] at member ⊢
      simp only [member, true_or]
    have target : standardRegistry.target? call.args (.name call.builtin.signature.name) =
        some call.builtin := Registry.target?_name holds_standardRegistry standard isFunction
    refine ⟨_, target, ?_⟩
    rw [Registry.callNamed_of_target target]
    exact returned
  room _ kind _ use := room kind use

private theorem ends_passed {check : Except BuiltinError α} {next : α → Action β}
    {before : World} {gives : β → World → Prop} (passed : check = .ok result)
    (rest : Ends (next result) before fails gives) :
    Ends (Action.ofExcept check >>= next) before fails gives := by
  rw [passed]
  exact rest

private theorem made_opening : opening.Made World.Keeps {} := by
  have here : Network.isHere "localhost" = .ok true := by simp [Network.isHere]
  have bound : ({} : Network).listen "localhost" 0 = .ok (0, opening.after.network) := by
    simp [Network.listen, here, Network.isBound, opening, Faults.none]
  have served : SocketService.listen {} {} "localhost" 0 =
      (.ok (.afterIssuing 0), (SocketService.addListener {} 0).2, opening.after.network) := by
    rw [SocketService.listen, show portOf 0 = .ok 0 from rfl]
    dsimp only
    rw [bound]
    rfl
  have ends : Ends (opening.builtin.call {} opening.args) ({} : World) (fun _ _ => False)
      fun progress after => progress = .finished (.ofHandle (.afterIssuing 0)) ∧
        after = opening.after := by
    refine ends_passed rfl (ends_passed rfl (ends_passed rfl ?_))
    refine ends_tryNeed (fun missing => Bool.noConfusion missing) fun _ => ?_
    apply Builtins.Sockets.ends_tryStep
    · intro error sockets network failed
      cases served.symm.trans failed
    · intro handle sockets network done
      cases served.symm.trans done
      exact ⟨rfl, rfl⟩
  refine made_by_name (by simp [Role.all, opening]) rfl ?_ ?_
  · intro kind use
    cases use
    decide
  · rw [Ends] at ends
    split at ends
    · rename_i ran
      obtain ⟨rfl, rfl⟩ := ends
      exact .finishes ran
    · exact ends.elim

private theorem made_closing : closing.Made World.Keeps {} :=
  made_by_name (by simp [Role.all, closing]) rfl nofun (.finishes rfl)

private theorem made_closingAgain : closingAgain.Made World.Keeps {} :=
  made_by_name (by simp [Role.all, closing, closingAgain]) rfl nofun (.fails rfl)

private theorem retires_closing : closing.Retires .network (.afterIssuing 0) where
  consumes := .inl rfl
  serves := ⟨.listener, .tail _ (.head _), rfl⟩
  names := rfl
  carriedOut _ := nofun

theorem missed_closed_listener :
    Session World.Keeps {} [opening, closing] closing.after ∧
      closing.after.Rests closingAgain.before ∧ closingAgain.Made World.Keeps {} ∧
      closingAgain.Obeys [opening, closing] World.Keeps {} ∧ closingAgain.Missed := by
  have keeping : Keeping World.Keeps := fun _ _ => id
  have session : Session World.Keeps {} [opening, closing] closing.after :=
    .call (.call (.start rfl rfl rfl) ⟨rfl, rfl, rfl⟩ made_opening)
      ⟨rfl, rfl, rfl⟩ made_closing
  have rested : closing.after.Rests closingAgain.before := ⟨rfl, rfl, rfl⟩
  have obeys := Session.obeys keeping session rested made_closingAgain
  refine ⟨session, rested, made_closingAgain, obeys, ?_⟩
  exact obeys.gone .listener (.afterIssuing 0) ⟨rfl, trivial⟩ (.tail _ (.head _)) rfl
    ⟨closing, .tail _ (.head _), retires_closing⟩

end ServiceCall

end ScriptHost
