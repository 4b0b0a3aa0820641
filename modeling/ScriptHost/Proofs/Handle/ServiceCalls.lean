import ScriptHost.Proofs.Builtins.Arguments
import ScriptHost.Proofs.Handle.Playing

/-! Whole calls of the builtins on files, sockets and HTTP, from the first attempt to the end: what
they say about handles, and what they do to what handles stand for. -/
namespace ScriptHost

/-- A call of a builtin of the three services that has returned, with the world around it. -/
structure ServiceCall where
  builtin : Builtin
  role : Role
  args : List Value
  before : World
  outcome : Except BuiltinError Value
  after : World

namespace ServiceCall

variable (call : ServiceCall)

/-- The call was made by any of the ways to name its builtin, and returned. While it waited, the
world changed in certain ways. A handle is given only while the counter of its service has not run
out, which is taken to be out of reach. -/
structure Made (moves : World → World → Prop) (env : Environment) : Prop where
  known : (call.builtin, call.role) ∈ Role.all
  returned : ∃ callee, standardRegistry.target? call.args callee = some call.builtin ∧
    Returns moves env (standardRegistry.callNamed env call.args callee) call.before
      call.outcome call.after
  room : ∀ value kind, call.outcome = .ok value → call.role.use = .issues kind →
    call.before.issued kind.service < UInt64.size - 1

/-- The call names a handle. -/
def Names (handle : Handle) : Prop := Args.handle call.args 0 = .ok handle

/-- The arguments fit the signature, and those behind the handle are sound. -/
structure Sound : Prop where
  checked : call.builtin.signature.checkArgs call.args = .ok ()
  sound : call.role.sound call.before.heap call.args

/-- The call gave a handle for a new resource. -/
def Issues (kind : ResourceKind) (handle : Handle) : Prop :=
  call.role.use = .issues kind ∧ ∃ value, call.outcome = .ok value ∧ value.handle? = some handle

/-- The call closed what a handle stands for, or answered it as well as the system let it. -/
structure Retires (service : Service) (handle : Handle) : Prop where
  consumes : call.role.Consumes
  serves : ∃ kind ∈ call.role.takes, kind.service = service
  names : call.Names handle
  carriedOut : ∀ error, call.outcome = .error error → error.kind = .io

end ServiceCall

/-- The kinds of resource that the handle of a call may stand for belong to one service. -/
theorem Role.service_eq (known : (builtin, role) ∈ Role.all) (first : kind ∈ role.takes)
    (second : other ∈ role.takes) : kind.service = other.service := by
  have same : ∀ entry ∈ Role.all, ∀ kind ∈ entry.2.takes, ∀ other ∈ entry.2.takes,
      kind.service = other.service := by
    decide
  exact same _ known kind first other second

theorem Signature.kind_of_checkArgs {signature : Signature}
    (refused : signature.checkArgs args = .error error) : error.kind = .contract := by
  rw [checkArgs] at refused
  split at refused
  · cases refused
    rfl
  · split at refused <;> cases refused
    rfl

namespace Role

variable {moves : World → World → Prop} {env : Environment} {args : List Value}
  {before after : World} {role : Role} {refusal : BuiltinError → Prop}
  {outcome : Except BuiltinError Value}

theorem Comes.imp (comes : role.Comes moves env args before refusal outcome after)
    (weaker : ∀ error, outcome = .error error → refusal error → refusal' error) :
    role.Comes moves env args before refusal' outcome after := by
  cases comes with
  | acts named member held acts => exact .acts named member held acts
  | missed missing isResource => exact .missed missing isResource
  | refused reason isContract => exact .refused (weaker _ rfl reason) isContract
  | untaken untaken stays alters => exact .untaken untaken stays alters

theorem Tries.imp (tries : role.Tries moves env args before action now)
    (weaker : ∀ error, role.Refuses args before error → refusal error) :
    Ends action now (fun error => role.Comes moves env args before refusal (.error error))
      (Progress.Meets (fun value => role.Comes moves env args before refusal (.ok value))
        (role.Waits moves env args before)) :=
  Ends.imp tries (fun _ _ comes => comes.imp fun error _ => weaker error)
    (Progress.Meets.imp (fun _ _ comes => comes.imp fun error _ => weaker error) fun _ _ => id)

/-- At a resource only the system makes a call fail. -/
theorem Acts.kind_of_error
    (acts : role.Acts moves env args before kind handle holding (.error error) after) :
    error.kind = .io := by
  generalize ended : (.error error : Except BuiltinError Value) = outcome at acts
  cases acts with
  | readsNothing | readsFile | writesFile | sends | acceptsStream | acceptsRequest | closes
    | answers => cases ended
  | readFails _ _ _ failed | writeFails _ _ failed =>
    cases ended
    exact kind_of_onSystem failed
  | receives use length positive waited done =>
    rename_i received network
    cases received <;> cases ended
    rfl
  | sendFails | acceptFails | answerFails =>
    cases ended
    rfl
  | rejects _ _ failed _ =>
    cases ended
    exact (Http.failsOutside_readRequest ..).kind_eq_io failed
  | tellsPort =>
    rw [localPortOf] at ended
    split at ended <;> cases ended
    rfl

/-! What a call does to what handles stand for. -/

/-- A use that neither gives a handle nor takes one away. -/
private theorem Alters.of_use {use : Use} (is : role.use = use) (idle : ∀ kind, use ≠ .issues kind)
    (stays : use ≠ .closes ∧ use ≠ .answers) (kept : after.ledger = before.ledger) :
    role.Alters env args before outcome after := by
  refine .same kept (fun kind other => ?_) fun consumes => ?_
  · exact absurd (is.symm.trans other) (idle kind)
  · cases consumes with
    | inl closes => exact absurd (is.symm.trans closes) stays.1
    | inr answers => exact absurd (is.symm.trans answers) stays.2

/-- A failed call leaves what handles stand for, unless it gets as far as to take one away. -/
private theorem Alters.of_error (kept : after.ledger = before.ledger)
    (stays : role.Consumes → error.kind ≠ .io) :
    role.Alters env args before (.error error) after :=
  .same kept (fun _ _ => ⟨error, rfl⟩) fun consumes => ⟨error, rfl, stays consumes⟩

theorem Acts.alters (keeping : Keeping moves) (provided : before.Provided env)
    (named : Args.handle args 0 = .ok handle) (member : kind ∈ role.takes)
    (held : before.held kind handle = some holding)
    (acts : role.Acts moves env args before kind handle holding outcome after) :
    role.Alters env args before outcome after := by
  have served := provided kind handle (Option.isSome_of_mem held)
  cases acts with
  | readsNothing use | readsFile use | readFails use | writesFile use | writeFails use | sends use
    | sendFails use | tellsPort use => exact .of_use use nofun (by decide) rfl
  | receives use _ _ waited =>
    exact .of_use use nofun (by decide) (Waited.keeps keeping waited).rests.ledger
  | acceptFails use waited =>
    exact .of_error (waited.keeps keeping).rests.ledger fun consumes =>
      absurd consumes (not_consumes_of_issues use)
  | acceptsStream use waited faultless taken =>
    rename_i listener last endpoint network
    have kept := (waited.keeps keeping).rests.ledger
    have added := last.ledger_addStream endpoint (network.release listener)
    rw [kept] at added
    refine .issued use served ?_ added
    rw [← kept]
    exact Value.handle?_ofHandle _
  | acceptsRequest use connected read given =>
    rename_i listener endpoint deadline last request rest value
    have kept := (connected.keeps keeping).rests.ledger
    obtain ⟨context, _, added⟩ :=
      last.ledger_addRequest endpoint request (last.network.release listener)
    rw [kept] at added
    obtain ⟨carried, heap, rfl⟩ := of_requestValue given
    refine .issued use served ?_ added
    rw [← kept]
    exact carried
  | rejects use connected =>
    exact .of_error (connected.keeps keeping).rests.ledger fun consumes =>
      absurd consumes (not_consumes_of_issues use)
  | closes use => exact .retired (.inl use) named member held (World.ledger_drop ..) nofun
  | answers use =>
    exact .retired (.inr use) named member held (before.ledger_drop .httpRequest handle) nofun
  | answerFails use =>
    refine .retired (.inr use) named member held (before.ledger_drop .httpRequest handle) ?_
    rintro _ ⟨⟩
    rfl

theorem Comes.alters (keeping : Keeping moves) (provided : before.Provided env)
    (comes : role.Comes moves env args before refusal outcome after) :
    role.Alters env args before outcome after := by
  cases comes with
  | acts named member held acts => exact acts.alters keeping provided named member held
  | missed _ isResource =>
    refine .of_error rfl fun _ => ?_
    rw [isResource]
    nofun
  | refused _ isContract =>
    refine .of_error rfl fun _ => ?_
    rw [isContract]
    nofun
  | untaken _ _ alters => exact alters

/-- A call that succeeds has found its resource. -/
theorem Comes.finds (comes : role.Comes moves env args before refusal (.ok value) after)
    (taken : role.takes ≠ []) : before.Finds role.takes args := by
  cases comes with
  | acts named member held => exact ⟨_, named, _, member, Option.isSome_of_mem held⟩
  | untaken untaken => exact absurd untaken taken

/-- A call that is not refused acts on what it finds. -/
theorem Comes.acts_of_finds (comes : role.Comes moves env args before refusal outcome after)
    (taken : role.takes ≠ []) (finds : before.Finds role.takes args) :
    (∃ handle kind holding, Args.handle args 0 = .ok handle ∧ kind ∈ role.takes ∧
        before.held kind handle = some holding ∧
        role.Acts moves env args before kind handle holding outcome after) ∨
      ∃ error, outcome = .error error ∧ error.kind = .contract ∧ after = before ∧
        refusal error := by
  cases comes with
  | acts named member held acts => exact .inl ⟨_, _, _, named, member, held, acts⟩
  | missed missing => exact absurd finds missing
  | refused reason isContract => exact .inr ⟨_, rfl, isContract, rfl, reason⟩
  | untaken untaken => exact absurd untaken taken

/-- A call that is not refused fails on the account of its handle if it finds nothing. -/
theorem Comes.missed_of_not_finds
    (comes : role.Comes moves env args before refusal outcome after) (taken : role.takes ≠ [])
    (missing : ¬before.Finds role.takes args) (sound : ∀ error, ¬refusal error) :
    ∃ error, outcome = .error error ∧ error.kind = .resource ∧ after = before := by
  cases comes with
  | acts named member held =>
    exact absurd ⟨_, named, _, member, Option.isSome_of_mem held⟩ missing
  | missed _ isResource => exact ⟨_, rfl, isResource, rfl⟩
  | refused reason => exact absurd reason (sound _)
  | untaken untaken => exact absurd untaken taken

end Role

namespace ServiceCall

variable {call : ServiceCall} {moves : World → World → Prop} {env : Environment}

/-- A call did what its role says, however often it had to wait. -/
theorem Made.comes (made : call.Made moves env) (keeping : Keeping moves)
    (provided : call.before.Provided env) :
    call.role.Comes moves env call.args call.before (fun _ => ¬call.Sound) call.outcome
      call.after := by
  obtain ⟨callee, target, returned⟩ := made.returned
  have faithful := holds_standardRegistry.faithful_callNamed (fun _ => agrees_of_standard) env
    call.args callee
  have noMisread : ∀ error, call.outcome = .error error → ¬Misread error := by
    intro error failed
    rw [failed] at returned
    exact faithful.not_misread returned
  have unsound : ∀ error, call.role.Refuses call.args call.before error →
      ¬call.Sound ∨ Misread error := fun _ => Or.imp_left fun unsound sound => unsound sound.sound
  rw [Registry.callNamed_of_target target, Builtin.call] at returned
  have settled := returned.meets
    (fun error => call.role.Comes moves env call.args call.before
      (fun error => ¬call.Sound ∨ Misread error) (.error error))
    (fun value => call.role.Comes moves env call.args call.before
      (fun error => ¬call.Sound ∨ Misread error) (.ok value))
    (call.role.Waits moves env call.args call.before) ?begins ?goesOn
  case begins =>
    apply ends_tryCheck
    · intro error refused
      refine .refused (.inl fun sound => ?_) (Signature.kind_of_checkArgs refused)
      cases refused.symm.trans sound.checked
    · intro _ _
      have plays := Role.plays_all _ made.known
      exact (plays moves env call.args call.before keeping provided).imp unsound
  case goesOn =>
    intro waiting between later waits moved
    exact ((waits.moved moved).tries keeping).imp unsound
  have comes : call.role.Comes moves env call.args call.before
      (fun error => ¬call.Sound ∨ Misread error) call.outcome call.after := by
    cases ended : call.outcome with
    | ok value => rwa [ended] at settled
    | error error => rwa [ended] at settled
  exact comes.imp fun error failed reason => reason.resolve_right (noMisread error failed)

/-- What a call does to what handles stand for: nothing, or it keeps a new resource under the next
handle, or it forgets what one handle stands for. -/
inductive Effect (call : ServiceCall) (env : Environment) : Prop
  | same (kept : call.after.ledger = call.before.ledger)
      (issues : ∀ kind handle, ¬call.Issues kind handle)
      (retires : ∀ service handle, ¬call.Retires service handle)
  | issued (kept : call.after.ledger = call.before.ledger.keep kind holding)
      (provided : env.provides kind.service = true)
      (room : call.before.issued kind.service < UInt64.size - 1)
      (issues : ∀ other handle, call.Issues other handle ↔
        other = kind ∧ handle = call.before.ledger.next kind.service)
      (retires : ∀ service handle, ¬call.Retires service handle)
  | retired (held : call.before.held kind handle = some holding)
      (dropped : call.after.ledger = call.before.ledger.drop kind handle)
      (issues : ∀ other named, ¬call.Issues other named)
      (retires : ∀ service named, call.Retires service named ↔
        service = kind.service ∧ named = handle)

/-- A call that is for closing or answering gives no handle. -/
private theorem Retires.not_issues (consumes : call.role.Consumes) (kind : ResourceKind)
    (handle : Handle) : ¬call.Issues kind handle := by
  intro issues
  exact Role.not_consumes_of_issues issues.1 consumes

theorem Made.effect (made : call.Made moves env) (keeping : Keeping moves)
    (provided : call.before.Provided env) : call.Effect env := by
  have alters := (made.comes keeping provided).alters keeping provided
  generalize ended : call.outcome = outcome at alters
  generalize left : call.after = after at alters
  cases alters with
  | same kept issues stays =>
    refine .same (left ▸ kept) (fun kind handle issued => ?_) fun service handle retired => ?_
    · obtain ⟨use, value, done, _⟩ := issued
      obtain ⟨error, failed⟩ := issues kind use
      cases failed.symm.trans (ended.symm.trans done)
    · obtain ⟨error, failed, other⟩ := stays retired.consumes
      exact other (retired.carriedOut error (ended.trans failed))
  | issued use given carried kept =>
    refine .issued (left ▸ kept) given (made.room _ _ ended use) (fun other handle => ?_)
      fun service handle retired => Retires.not_issues retired.consumes _ _ ⟨use, _, ended, carried⟩
    constructor
    · intro issued
      obtain ⟨use', value, done, inside⟩ := issued
      cases use.symm.trans use'
      cases ended.symm.trans done
      exact ⟨rfl, Option.some.inj (inside.symm.trans carried)⟩
    · intro same
      obtain ⟨rfl, rfl⟩ := same
      exact ⟨use, _, ended, carried⟩
  | retired consumes named member held dropped carriedOut =>
    refine .retired held (left ▸ dropped) (Retires.not_issues consumes) fun service other => ?_
    constructor
    · intro retired
      obtain ⟨served, taken, rfl⟩ := retired.serves
      exact ⟨Role.service_eq made.known taken member,
        Except.ok.inj (retired.names.symm.trans named)⟩
    · intro same
      obtain ⟨rfl, rfl⟩ := same
      exact ⟨consumes, ⟨_, member, rfl⟩, named, fun error failed =>
        carriedOut error (ended.symm.trans failed)⟩

end ServiceCall

end ScriptHost
