import ScriptHost.Proofs.Builtins.Regular
import ScriptHost.Proofs.Http.RequestFaults

/-! A call that waits for a peer: however often it is advanced, it changes nothing that programs
hold before it gives its value. As long as what it waits at stays open, it can only fail because of
the peer or the system. -/
namespace ScriptHost

section

variable {before : World} {fails : BuiltinError → World → Prop} {gives : Value → World → Prop}

/-- A dict of headers is a new one. -/
theorem ends_newHeaders (headers : Http.Headers)
    (given : ∀ ref heap, before.heap.Extends heap →
      heap.conforms (.dict .string) (.dict ref) = true → gives (.dict ref) { before with heap }) :
    Ends (newHeaders headers) before fails gives := by
  refine given _ _ (Heap.extends_newDict _ _) (Heap.conforms_newDict fun value member => ?_)
  obtain ⟨entry, entries, rfl⟩ := List.mem_map.mp member
  obtain ⟨header, _, same⟩ := List.mem_map.mp (SortedMap.mem_of_mem_ofList entries)
  have text : entry.2 = .string header.2 := (congrArg Prod.snd same).symm
  rw [text]
  rfl

theorem ends_requestValue (request : IncomingRequest)
    (given : ∀ value heap, before.heap.Extends heap →
      heap.conforms Builtins.Http.requestShape value = true → gives value { before with heap }) :
    Ends (requestValue request) before fails gives := by
  rw [requestValue, ends_bind]
  refine ends_newHeaders request.headers fun ref heap more strings => given _ heap more ?_
  have handle : heap.conforms .handle (.ofHandle request.handle) = true :=
    Heap.conforms_ofHandle request.handle
  change heap.fieldsConform _ _ = true
  simp only [Heap.fieldsConform, handle, strings, Bool.true_and]
  rfl

end

/-- What may come of an attempt at a call for a value of a type, seen from a world before it and
with what the call waits at open or not. -/
def Advances (type : TypeDesc) (isOpen : Prop) (action : Action Progress) (origin before : World) :
    Prop :=
  Ends action before (fun error after => origin.Keeps after ∧ (isOpen → error.kind = .io))
    (Progress.Meets (Gives type origin) fun call after =>
      origin.Keeps after ∧ (isOpen → call.Held after) ∧ call.result = type)

theorem Advances.of_keeps (advances : Advances type isOpen action before before)
    (kept : origin.Keeps before) : Advances type isOpen action origin before := by
  refine advances.imp ?_ (Progress.Meets.imp ?_ ?_)
  · exact fun error after failed => ⟨kept.trans failed.1, failed.2⟩
  · exact fun value after given => ⟨kept.heap ▸ given.1, given.2⟩
  · exact fun call after waits => ⟨kept.trans waits.1, waits.2⟩

/-! What an attempt leaves that fails. -/

section

variable {network network' : Network} {error : HostError}

theorem kind_of_tryAccept_eq_error
    (failed : tryAccept network listener stillOpen closed = .done (.error error) network')
    (isOpen : stillOpen = true) : (BuiltinError.host error).kind = .io := by
  rw [tryAccept, isOpen] at failed
  split at failed
  · cases failed
    rfl
  · cases failed
  · cases failed

theorem SocketService.of_accept_eq_error {service service' : SocketService}
    (failed : service.accept network server listener =
      .done (.error error) (service', network')) :
    service' = service ∧
      (service.listeners.contains server = true → (BuiltinError.host error).kind = .io) := by
  rw [SocketService.accept] at failed
  split at failed
  · cases failed
  · rename_i tried
    cases failed
    exact ⟨rfl, kind_of_tryAccept_eq_error tried⟩
  · cases failed

theorem SocketService.of_read_eq_error {service service' : SocketService}
    (failed : service.read network handle endpoint limit =
      .done (.error error) (service', network')) :
    service' = service ∧
      (service.streams.contains handle = true → (BuiltinError.host error).kind = .io) := by
  rw [SocketService.read] at failed
  split at failed
  · cases failed
  · dsimp only at failed
    injection failed with outcome after
    cases after
    refine ⟨rfl, fun isOpen => ?_⟩
    rw [isOpen] at outcome
    split at outcome <;> cases outcome
    rfl

theorem HttpService.of_readRequest_eq_error {service service' : HttpService}
    (failed : service.readRequest network limits clock server endpoint deadline =
      .done (.error error) (service', network')) :
    service' = service ∧
      (service.listeners.contains server = true → (BuiltinError.host error).kind = .io) := by
  rw [HttpService.readRequest] at failed
  dsimp only at failed
  split at failed
  · cases failed
  · rename_i reading
    split at failed
    · cases failed
    · split at failed
      · rename_i gone
        cases failed
        refine ⟨rfl, fun isOpen => ?_⟩
        rw [isOpen] at gone
        cases gone
      · cases failed
        exact ⟨rfl, fun _ => (Http.failsOutside_readRequest ..).kind_eq_io reading⟩

end

theorem advances_acceptStream (env : Environment) (server : Handle)
    (listener : Network.ListenerId) (before : World) :
    Advances .handle (before.sockets.listeners.contains server = true)
      ((Suspended.acceptStream server listener).advance env) before before := by
  rw [Advances, Suspended.advance, ends_bind, ends_get]
  split
  · exact ⟨⟨rfl, rfl, rfl, rfl⟩, id, rfl⟩
  · rw [ends_bind, ends_set, ends_bind, letGo, ends_modify]
    apply ends_tryHostCheck
    · rintro error rfl
      obtain ⟨rfl, kind⟩ := SocketService.of_accept_eq_error ‹_›
      exact ⟨⟨rfl, rfl, rfl, rfl⟩, kind⟩
    · intro handle _
      exact ⟨.refl _, Heap.conforms_ofHandle _⟩

theorem advances_readStream (env : Environment) (handle : Handle) (endpoint : Network.EndpointId)
    (limit : Nat) (before : World) :
    Advances .bytes (before.sockets.streams.contains handle = true)
      ((Suspended.readStream handle endpoint limit).advance env) before before := by
  rw [Advances, Suspended.advance, ends_bind, ends_get]
  split
  · exact ⟨⟨rfl, rfl, rfl, rfl⟩, id, rfl⟩
  · rw [ends_bind, ends_set]
    apply ends_tryHostCheck
    · rintro error rfl
      obtain ⟨rfl, kind⟩ := SocketService.of_read_eq_error ‹_›
      exact ⟨⟨rfl, rfl, rfl, rfl⟩, kind⟩
    · intro data _
      exact ⟨.refl _, rfl⟩

theorem advances_reading (env : Environment) (server : Handle) (listener : Network.ListenerId)
    (endpoint : Network.EndpointId) (deadline : Nat) (before : World) :
    Advances Builtins.Http.requestShape (before.http.listeners.contains server = true)
      (advanceReading env server listener endpoint deadline) before before := by
  rw [Advances, advanceReading, ends_bind, ends_get]
  split
  · exact ⟨⟨rfl, rfl, rfl, rfl⟩, id, rfl⟩
  · rw [ends_bind, ends_set, ends_bind, letGo, ends_modify]
    apply ends_tryHostCheck
    · rintro error rfl
      obtain ⟨rfl, kind⟩ := HttpService.of_readRequest_eq_error ‹_›
      exact ⟨⟨rfl, rfl, rfl, rfl⟩, kind⟩
    · intro request _
      rw [ends_bind]
      exact ends_requestValue request fun value heap more conforms => ⟨more, conforms⟩

theorem advances_acceptRequest (env : Environment) (server : Handle)
    (listener : Network.ListenerId) (before : World) :
    Advances Builtins.Http.requestShape (before.http.listeners.contains server = true)
      ((Suspended.acceptRequest server listener).advance env) before before := by
  rw [Advances, Suspended.advance, ends_bind, ends_get]
  split
  · exact ⟨⟨rfl, rfl, rfl, rfl⟩, id, rfl⟩
  · rename_i failed
    exact ⟨⟨rfl, rfl, rfl, rfl⟩, kind_of_tryAccept_eq_error failed⟩
  · rw [ends_bind, ends_set]
    exact (advances_reading env server listener _ _ _).of_keeps ⟨rfl, rfl, rfl, rfl⟩

/-- Every attempt at a call leaves what programs hold as it was, unless it gives the value. -/
theorem Suspended.advances (call : Suspended) (env : Environment) (before : World) :
    Advances call.result (call.Held before) (call.advance env) before before := by
  cases call with
  | acceptStream server listener => exact advances_acceptStream env server listener before
  | readStream handle endpoint limit => exact advances_readStream env handle endpoint limit before
  | acceptRequest server listener => exact advances_acceptRequest env server listener before
  | readRequest server listener endpoint deadline =>
    exact advances_reading env server listener endpoint deadline before

/-- The first attempt at a call whose handle was just looked up. -/
theorem Suspended.begins (call : Suspended) (held : call.Held before)
    (kept : origin.Keeps before) : Ends (call.advance env) before (Harmless origin)
      (Progress.Meets (Gives call.result origin) (Waits call.result origin)) := by
  refine ((call.advances env before).of_keeps kept).imp ?_ (Progress.Meets.imp ?_ ?_)
  · exact fun error after failed => .inr ⟨failed.2 held, failed.1⟩
  · exact fun value after given => given
  · exact fun later after waits => ⟨waits.1, waits.2.1 held, waits.2.2⟩

end ScriptHost
