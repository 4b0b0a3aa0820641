import ScriptHost.Proofs.Handle.Effects
import ScriptHost.Proofs.Service.HttpSpentHandle

/-! The services look handles up in their tables. What they find there is what they act on; where
there is nothing, the error says so. -/
namespace ScriptHost

theorem Http.kind_of_statusOf (failed : statusOf status = .error error) :
    (BuiltinError.host error).kind = .contract := by
  rw [statusOf] at failed
  split at failed <;> cases failed
  rfl

theorem Http.kind_of_validate {headers : Headers} (failed : headers.validate = .error error) :
    (BuiltinError.host error).kind = .contract := by
  rw [Headers.validate] at failed
  split at failed <;> cases failed
  rfl

/-- A handle that stands for nothing of these kinds. -/
theorem World.not_finds_of_missing {world : World} (named : Args.handle args 0 = .ok handle)
    (missing : ∀ kind ∈ kinds, world.held kind handle = none) : ¬world.Finds kinds args := by
  intro finds
  obtain ⟨other, named', kind, member, held⟩ := finds
  cases named.symm.trans named'
  rw [missing kind member] at held
  cases held

namespace Role

variable {moves : World → World → Prop} {env : Environment} {args : List Value} {before : World}
  {handle : Handle} {refusal : BuiltinError → Prop}

/-- The call was refused for its handle and did nothing. -/
private def Astray (before : World) (outcome : Except BuiltinError Value) (after : World) : Prop :=
  ∃ error : BuiltinError, outcome = .error error ∧ error.kind = .resource ∧ after = before

section

variable {role : Role} {outcome : Except BuiltinError Value} {after : World}

/-- A call that looks in the table of one kind. -/
private theorem comes_in (table : Table Resource) (wrap : Resource → Holding)
    (takes : role.takes = [kind]) (named : Args.handle args 0 = .ok handle)
    (kept : before.held kind handle = (table.get? handle).map wrap)
    (missed : table.get? handle = none → Astray before outcome after)
    (used : ∀ resource, table.get? handle = some resource →
      role.Acts moves env args before kind handle (wrap resource) outcome after) :
    role.Comes moves env args before refusal outcome after := by
  cases found : table.get? handle with
  | none =>
    obtain ⟨error, rfl, isResource, rfl⟩ := missed found
    rw [found] at kept
    refine .missed (World.not_finds_of_missing named ?_) isResource
    rw [takes]
    exact List.forall_mem_singleton.mpr kept
  | some resource =>
    rw [found] at kept
    exact .acts named (takes ▸ .head _) kept (used resource found)

/-- A call that looks in the table of one kind, and if there is nothing in that of another. -/
private theorem comes_inEither (table : Table Resource) (second : Table Resource')
    (wrap : Resource → Holding) (wrap' : Resource' → Holding)
    (takes : role.takes = [kind, other]) (named : Args.handle args 0 = .ok handle)
    (kept : before.held kind handle = (table.get? handle).map wrap)
    (kept' : before.held other handle = (second.get? handle).map wrap')
    (missed : table.get? handle = none → second.get? handle = none → Astray before outcome after)
    (used : ∀ resource, table.get? handle = some resource →
      role.Acts moves env args before kind handle (wrap resource) outcome after)
    (used' : table.get? handle = none → ∀ resource, second.get? handle = some resource →
      role.Acts moves env args before other handle (wrap' resource) outcome after) :
    role.Comes moves env args before refusal outcome after := by
  cases found : table.get? handle with
  | some resource =>
    rw [found] at kept
    exact .acts named (takes ▸ .head _) kept (used resource found)
  | none =>
    rw [found] at kept
    cases found' : second.get? handle with
    | some resource =>
      rw [found'] at kept'
      exact .acts named (takes ▸ .tail _ (.head _)) kept' (used' found resource found')
    | none =>
      obtain ⟨error, rfl, isResource, rfl⟩ := missed found found'
      rw [found'] at kept'
      refine .missed (World.not_finds_of_missing named ?_) isResource
      rw [takes]
      exact List.forall_mem_cons.mpr ⟨kept, List.forall_mem_singleton.mpr kept'⟩

end

section Files

variable {files : FileService} {disk : Disk}

theorem comes_readFile (named : Args.handle args 0 = .ok handle)
    (given : Args.int args 1 = .ok length)
    (ran : before.files.read before.disk handle length = (outcome, files, disk)) :
    let role : Role := { takes := [.file], use := .reads, sound := SoundLength }
    role.Comes moves env args before (role.Refuses args before) (answerOf .bytes outcome)
      { before with files, disk } := by
  intro role
  rw [FileService.read, readLimit] at ran
  by_cases negative : length < 0
  · rw [if_pos negative] at ran
    cases ran
    refine .refused (.inl fun sound => ?_) rfl
    exact Int.not_lt.mpr (sound length given) negative
  rw [if_neg negative] at ran
  refine comes_in before.files.files .file rfl named rfl (fun missing => ?_) fun opening found => ?_
  · rw [Table.get_of_get?_eq_none missing] at ran
    cases ran
    exact ⟨_, rfl, rfl, rfl⟩
  · rw [Table.get_eq_ok_iff.mpr found] at ran
    obtain ⟨limit, rfl⟩ := Int.eq_ofNat_of_zero_le (Int.not_lt.mp negative)
    dsimp only [Int.toNat_natCast] at ran
    split at ran
    · rename_i empty
      cases ran
      subst empty
      exact .readsNothing rfl given
    · rename_i some
      have positive := Nat.pos_of_ne_zero some
      split at ran
      · cases ran
        exact .readFails rfl given positive ‹_›
      · cases ran
        exact .readsFile rfl given positive ‹_›

theorem comes_writeFile (named : Args.handle args 0 = .ok handle)
    (given : Args.bytes args 1 = .ok data)
    (ran : before.files.write before.disk handle data = (outcome, files, disk)) :
    Role.Comes moves env args before { takes := [.file], use := .writes } refusal
      (answerOf .ofNat outcome) { before with files, disk } := by
  rw [FileService.write] at ran
  refine comes_in before.files.files .file rfl named rfl (fun missing => ?_) fun opening found => ?_
  · rw [Table.get_of_get?_eq_none missing] at ran
    cases ran
    exact ⟨_, rfl, rfl, rfl⟩
  · rw [Table.get_eq_ok_iff.mpr found] at ran
    dsimp only at ran
    split at ran
    · cases ran
      exact .writeFails rfl given ‹_›
    · cases ran
      exact .writesFile rfl given ‹_›

theorem comes_closeFile (named : Args.handle args 0 = .ok handle)
    (ran : before.files.close before.disk handle = (outcome, files, disk)) :
    Role.Comes moves env args before { takes := [.file], use := .closes } refusal
      (answerOf (fun _ => .unit) outcome) { before with files, disk } := by
  rw [FileService.close] at ran
  refine comes_in before.files.files .file rfl named rfl (fun missing => ?_) fun opening found => ?_
  · rw [Table.take?_eq_none_iff.mpr missing] at ran
    cases ran
    exact ⟨_, rfl, rfl, rfl⟩
  · rw [Table.take?_eq_some_iff.mpr ⟨found, rfl⟩] at ran
    cases ran
    exact .closes rfl

end Files

section Sockets

variable {sockets : SocketService} {network : Network}

theorem comes_writeStream (named : Args.handle args 0 = .ok handle)
    (given : Args.bytes args 1 = .ok data)
    (ran : before.sockets.write before.network handle data = (outcome, sockets, network)) :
    Role.Comes moves env args before { takes := [.socket], use := .writes } refusal
      (answerOf .ofNat outcome) { before with sockets, network } := by
  rw [SocketService.write] at ran
  refine comes_in before.sockets.streams .stream rfl named rfl (fun missing => ?_)
    fun endpoint found => ?_
  · rw [Table.get_of_get?_eq_none missing] at ran
    cases ran
    exact ⟨_, rfl, rfl, rfl⟩
  · rw [Table.get_eq_ok_iff.mpr found] at ran
    dsimp only at ran
    cases sent : before.network.send endpoint data with
    | error cause =>
      rw [sent] at ran
      cases ran
      exact .sendFails rfl given sent
    | ok network =>
      rw [sent] at ran
      cases ran
      exact .sends rfl given sent

theorem comes_closeSocket (named : Args.handle args 0 = .ok handle)
    (ran : before.sockets.close before.network handle = (outcome, sockets, network)) :
    Role.Comes moves env args before { takes := [.socket, .listener], use := .closes } refusal
      (answerOf (fun _ => .unit) outcome) { before with sockets, network } := by
  rw [SocketService.close] at ran
  refine comes_inEither before.sockets.streams before.sockets.listeners .stream .listener rfl named
    rfl rfl (fun missing missing' => ?_) (fun endpoint found => ?_) fun missing listener found => ?_
  · rw [Table.take?_eq_none_iff.mpr missing, Table.take?_eq_none_iff.mpr missing'] at ran
    cases ran
    exact ⟨_, rfl, rfl, rfl⟩
  · rw [Table.take?_eq_some_iff.mpr ⟨found, rfl⟩] at ran
    cases ran
    exact .closes rfl
  · rw [Table.take?_eq_none_iff.mpr missing, Table.take?_eq_some_iff.mpr ⟨found, rfl⟩] at ran
    cases ran
    exact .closes rfl

theorem comes_socketPort (named : Args.handle args 0 = .ok handle) :
    Role.Comes moves env args before { takes := [.socket, .listener], use := .tellsPort } refusal
      (answerOf .ofNat (before.sockets.localPort before.network handle)) before := by
  rw [SocketService.localPort]
  refine comes_inEither before.sockets.streams before.sockets.listeners .stream .listener rfl named
    rfl rfl (fun missing missing' => ?_) (fun endpoint found => ?_) fun missing listener found => ?_
  · rw [missing, missing']
    exact ⟨_, rfl, rfl, rfl⟩
  · rw [found]
    exact .tellsPort rfl rfl
  · rw [missing, found]
    exact .tellsPort rfl rfl

end Sockets

section Http

variable {http : HttpService} {network : Network}

theorem comes_closeHttp (named : Args.handle args 0 = .ok handle)
    (ran : before.http.close before.network handle = (outcome, http, network)) :
    Role.Comes moves env args before { takes := [.httpListener, .httpRequest], use := .closes }
      refusal (answerOf (fun _ => .unit) outcome) { before with http, network } := by
  rw [HttpService.close] at ran
  refine comes_inEither before.http.listeners before.http.requests .listener .request rfl named
    rfl rfl (fun missing missing' => ?_) (fun listener found => ?_) fun missing context found => ?_
  · rw [Table.take?_eq_none_iff.mpr missing, Table.take?_eq_none_iff.mpr missing'] at ran
    cases ran
    exact ⟨_, rfl, rfl, rfl⟩
  · rw [Table.take?_eq_some_iff.mpr ⟨found, rfl⟩] at ran
    cases ran
    exact .closes rfl
  · rw [Table.take?_eq_none_iff.mpr missing, Table.take?_eq_some_iff.mpr ⟨found, rfl⟩] at ran
    cases ran
    exact .closes rfl

theorem comes_httpPort (named : Args.handle args 0 = .ok handle) :
    Role.Comes moves env args before { takes := [.httpListener], use := .tellsPort } refusal
      (answerOf .ofNat (before.http.localPort before.network handle)) before := by
  rw [HttpService.localPort]
  refine comes_in before.http.listeners .listener rfl named rfl (fun missing => ?_)
    fun listener found => ?_
  · rw [Table.get_of_get?_eq_none missing]
    exact ⟨_, rfl, rfl, rfl⟩
  · rw [Table.get_eq_ok_iff.mpr found]
    exact .tellsPort rfl rfl

/-- A request that was found is gone, whether its answer could be sent or not. -/
theorem comes_respond (named : Args.handle args 0 = .ok handle)
    (number : Args.int args 1 = .ok status)
    (given : Args.headers before.heap args 2 = .ok headers) (text : Args.bytes args 3 = .ok body)
    (ran : before.http.respond before.network handle status headers body =
      (outcome, http, network)) :
    let role : Role := { takes := [.httpRequest], use := .answers, sound := SoundAnswer }
    role.Comes moves env args before (role.Refuses args before)
      (answerOf (fun _ => .unit) outcome) { before with http, network } := by
  intro role
  rw [HttpService.respond] at ran
  split at ran
  · rename_i failed
    cases ran
    refine .refused (.inl fun sound => ?_) (Http.kind_of_statusOf failed)
    have inRange := HttpService.statusOf_eq_ok_iff.mpr ⟨sound.1 status number, rfl⟩
    cases failed.symm.trans inRange
  rename_i code inRange
  split at ran
  · rename_i failed
    cases ran
    refine .refused (.inl fun sound => ?_) (Http.kind_of_validate failed)
    obtain ⟨_, headers', given', valid⟩ := sound
    cases given.symm.trans given'
    cases failed.symm.trans valid
  rename_i valid
  refine comes_in before.http.requests .request rfl named rfl (fun missing => ?_)
    fun context found => ?_
  · rw [Table.take?_eq_none_iff.mpr missing] at ran
    cases ran
    exact ⟨_, rfl, rfl, rfl⟩
  · rw [Table.take?_eq_some_iff.mpr ⟨found, rfl⟩] at ran
    have reply : Replies args before context _ := .intro number inRange given valid text
    dsimp only at ran
    split at ran
    · cases ran
      exact .answers rfl reply ‹_›
    · cases ran
      exact .answerFails rfl reply ‹_›

end Http

end Role

end ScriptHost
