import ScriptHost.Proofs.Builtins.ArgumentCheck

/-! What reads the arguments of a call: where they fit the signature, an argument that is read as
its parameter is declared is neither missed nor found with another tag. -/
namespace ScriptHost

/-- A failure to find an argument, or to find one with the expected tag. -/
inductive Misread : BuiltinError → Prop where
  | missing (index : Nat) : Misread (.invalidArgument (.missingArgument index))
  | wrong (index : Nat) (expected got : String) :
      Misread (.invalidArgument (.wrongArgument index expected got))

/-- A check that fails for no such reason. -/
def Reads (check : Except BuiltinError α) : Prop := ∀ error, check = .error error → ¬Misread error

theorem Reads.ok (result : α) : Reads (.ok result) := nofun

theorem Reads.failure {fault : BuiltinError} (other : ¬Misread fault) :
    Reads (.error fault : Except BuiltinError α) := by
  rintro _ ⟨⟩
  exact other

/-- A failure is passed on by what is done behind it. -/
theorem Reads.of_error {check : Except BuiltinError α} (reads : Reads check)
    (failed : check = .error fault) : Reads (.error fault : Except BuiltinError β) :=
  .failure (reads fault failed)

theorem Reads.map {check : Except BuiltinError α} (reads : Reads check) (change : α → β) :
    Reads (check.map change) := by
  cases found : check with
  | ok result => exact .ok _
  | error error => exact reads.of_error found

namespace Args

variable {signature : Signature} {args : List Value} {index : Nat}

private theorem exists_value {kind : Kind} (fits : signature.Fits args)
    (declared : signature.paramTypes[index]?.map TypeDesc.kind = some kind) :
    ∃ value, any args index = .ok value ∧ (kind = .any ∨ value.kind = kind) := by
  obtain ⟨type, typed, rfl⟩ := Option.map_eq_some_iff.mp declared
  obtain ⟨inside, _⟩ := List.getElem?_eq_some_iff.mp typed
  obtain ⟨type', value, typed', given, accepts⟩ := fits.tagged index inside
  obtain rfl : type = type' := Option.some.inj (typed.symm.trans typed')
  refine ⟨value, by rw [any, given], ?_⟩
  simpa [TypeDesc.accepts] using accepts

/-- What takes every value with a tag reads an argument whose parameter is declared with it. -/
private theorem reads_of_kind {check : Except BuiltinError α} {kind : Kind}
    (fits : signature.Fits args)
    (declared : signature.paramTypes[index]?.map TypeDesc.kind = some kind) (specific : kind ≠ .any)
    (takes : ∀ value, any args index = .ok value → value.kind = kind →
      ∃ result, check = .ok result) : Reads check := by
  obtain ⟨value, there, unspecific | same⟩ := exists_value fits declared
  · exact absurd unspecific specific
  · obtain ⟨result, taken⟩ := takes value there same
    rw [taken]
    exact .ok result

theorem reads_any (fits : signature.Fits args)
    (declared : signature.paramTypes[index]?.map TypeDesc.kind = some .any) :
    Reads (any args index) := by
  obtain ⟨value, there, _⟩ := exists_value fits declared
  rw [there]
  exact .ok value

theorem reads_int (fits : signature.Fits args)
    (declared : signature.paramTypes[index]?.map TypeDesc.kind = some .int) :
    Reads (int args index) := by
  refine reads_of_kind fits declared nofun fun value there same => ?_
  cases value <;> cases same
  exact ⟨_, by rw [int, there]⟩

theorem reads_string (fits : signature.Fits args)
    (declared : signature.paramTypes[index]?.map TypeDesc.kind = some .string) :
    Reads (string args index) := by
  refine reads_of_kind fits declared nofun fun value there same => ?_
  cases value <;> cases same
  exact ⟨_, by rw [string, there]⟩

theorem reads_bytes (fits : signature.Fits args)
    (declared : signature.paramTypes[index]?.map TypeDesc.kind = some .bytes) :
    Reads (bytes args index) := by
  refine reads_of_kind fits declared nofun fun value there same => ?_
  cases value <;> cases same
  exact ⟨_, by rw [bytes, there]⟩

theorem reads_list (fits : signature.Fits args)
    (declared : signature.paramTypes[index]?.map TypeDesc.kind = some .list) :
    Reads (list args index) := by
  refine reads_of_kind fits declared nofun fun value there same => ?_
  cases value <;> cases same
  exact ⟨_, by rw [list, there]⟩

theorem reads_dict (fits : signature.Fits args)
    (declared : signature.paramTypes[index]?.map TypeDesc.kind = some .dict) :
    Reads (dict args index) := by
  refine reads_of_kind fits declared nofun fun value there same => ?_
  cases value <;> cases same
  exact ⟨_, by rw [dict, there]⟩

theorem reads_closure (fits : signature.Fits args)
    (declared : signature.paramTypes[index]?.map TypeDesc.kind = some .function) :
    Reads (closure args index) := by
  refine reads_of_kind fits declared nofun fun value there same => ?_
  cases value <;> cases same
  exact ⟨_, by rw [closure, there]⟩

theorem reads_error (fits : signature.Fits args)
    (declared : signature.paramTypes[index]?.map TypeDesc.kind = some .error) :
    Reads (error args index) := by
  refine reads_of_kind fits declared nofun fun value there same => ?_
  cases value <;> cases same
  exact ⟨_, by rw [error, there]⟩

theorem reads_optional (fits : signature.Fits args)
    (declared : signature.paramTypes[index]?.map TypeDesc.kind = some .optional) :
    Reads (optional args index) := by
  refine reads_of_kind fits declared nofun fun value there same => ?_
  cases value <;> cases same
  · exact ⟨_, by rw [optional, there]⟩
  · exact ⟨_, by rw [optional, there]⟩

/-! Bytes that are no handle, entries that are no strings and a body that is no bytes are faults of
other kinds. -/

theorem reads_handle (fits : signature.Fits args)
    (declared : signature.paramTypes[index]?.map TypeDesc.kind = some .bytes) :
    Reads (handle args index) := by
  rw [handle]
  split
  · exact (reads_bytes fits declared).of_error ‹_›
  · split
    · exact .ok _
    · exact .failure nofun

theorem reads_stringEntries (entries : List (String × Value)) : Reads (stringEntries entries) := by
  fun_induction stringEntries entries with
  | case1 => exact .ok _
  | case2 key text rest ih => exact ih.map _
  | case3 => exact .failure nofun

theorem reads_headers (fits : signature.Fits args) (heap : Heap)
    (declared : signature.paramTypes[index]?.map TypeDesc.kind = some .dict) :
    Reads (headers heap args index) := by
  rw [headers]
  split
  · exact (reads_dict fits declared).of_error ‹_›
  · exact (reads_stringEntries _).map _

theorem reads_body (fits : signature.Fits args)
    (declared : signature.paramTypes[index]?.map TypeDesc.kind = some .optional) :
    Reads (body args index) := by
  rw [body]
  split
  · exact (reads_optional fits declared).of_error ‹_›
  · exact .ok _
  · exact .ok _
  · exact .failure nofun

end Args

/-- An action that fails for no such reason either. -/
def Faithful (action : Action α) : Prop :=
  ∀ before, Ends action before (fun error _ => ¬Misread error) fun _ _ => True

namespace Faithful

variable {action : Action α} {next : α → Action β}

theorem bind (first : Faithful action) (rest : ∀ result, Faithful (next result)) :
    Faithful (action >>= next) := by
  intro before
  rw [ends_bind]
  exact (first before).imp (fun _ _ => id) fun result after _ => rest result after

theorem ite {condition : Prop} [Decidable condition] {first second : Action α}
    (yes : Faithful first) (no : Faithful second) :
    Faithful (if condition then first else second) := by
  split <;> assumption

end Faithful

theorem faithful_pure (result : α) : Faithful (pure result) := fun _ => trivial

theorem faithful_throw {error : BuiltinError} (other : ¬Misread error) :
    Faithful (throw error : Action α) := fun _ => other

theorem faithful_host (error : HostError) : Faithful (throw (.host error) : Action α) :=
  faithful_throw nofun

theorem faithful_get : Faithful get := fun _ => trivial

theorem faithful_set (world : World) : Faithful (set world) := fun _ => trivial

theorem faithful_modify (change : World → World) : Faithful (modify change) := fun _ => trivial

theorem Reads.bind {check : Except BuiltinError α} {next : α → Action β} (reads : Reads check)
    (rest : ∀ result, Faithful (next result)) : Faithful (Action.ofExcept check >>= next) := by
  refine Faithful.bind ?_ rest
  cases found : check with
  | ok result => exact faithful_pure result
  | error error => exact faithful_throw (reads error found)

theorem faithful_ofHost (check : Except HostError α) : Faithful (Action.ofHost check) := by
  cases check with
  | ok result => exact faithful_pure result
  | error error => exact faithful_host error

theorem faithful_need (present : Bool) (service : Service) :
    Faithful (Action.need present service) :=
  .ite (faithful_pure ()) (faithful_host _)

theorem faithful_hostStep (use : World → Except HostError α × State)
    (putBack : World → State → World) : Faithful (Action.hostStep use putBack) :=
  faithful_get.bind fun _ => (faithful_set _).bind fun _ => faithful_ofHost _

/-! Calls that wait read no arguments any more. -/

theorem faithful_newHeaders (headers : Http.Headers) : Faithful (newHeaders headers) :=
  faithful_get.bind fun _ => (faithful_set _).bind fun _ => faithful_pure _

theorem faithful_advanceReading (env : Environment) (server : Handle)
    (listener : Network.ListenerId) (endpoint : Network.EndpointId) (deadline : Nat) :
    Faithful (advanceReading env server listener endpoint deadline) := by
  refine faithful_get.bind fun world => ?_
  split
  · exact faithful_pure _
  · refine (faithful_set _).bind fun _ => (faithful_modify _).bind fun _ => ?_
    refine (faithful_ofHost _).bind fun request => Faithful.bind ?_ fun _ => faithful_pure _
    exact (faithful_newHeaders _).bind fun _ => faithful_pure _

theorem Suspended.faithful_advance (call : Suspended) (env : Environment) :
    Faithful (call.advance env) := by
  cases call with
  | acceptStream server listener =>
    refine faithful_get.bind fun world => ?_
    split
    · exact faithful_pure _
    · refine (faithful_set _).bind fun _ => (faithful_modify _).bind fun _ => ?_
      exact (faithful_ofHost _).bind fun _ => faithful_pure _
  | readStream handle endpoint limit =>
    refine faithful_get.bind fun world => ?_
    split
    · exact faithful_pure _
    · refine (faithful_set _).bind fun _ => ?_
      exact (faithful_ofHost _).bind fun _ => faithful_pure _
  | acceptRequest server listener =>
    refine faithful_get.bind fun world => ?_
    split
    · exact faithful_pure _
    · refine (faithful_set _).bind fun _ => ?_
      exact (faithful_modify _).bind fun _ => faithful_host _
    · exact (faithful_set _).bind fun _ => faithful_advanceReading _ _ _ _ _
  | readRequest server listener endpoint deadline => exact faithful_advanceReading _ _ _ _ _

end ScriptHost
