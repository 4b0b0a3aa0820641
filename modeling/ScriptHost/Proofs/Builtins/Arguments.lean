import ScriptHost.Proofs.Builtins.ArgumentReading
import ScriptHost.Proofs.Builtins.Standard

/-! Builtins read their arguments as their signatures declare them: once the check has let a call
pass, no argument is missed and none has another tag than the one it is read with. -/
namespace ScriptHost

/-- The builtin reads its arguments as its signature declares them. -/
def Builtin.Agrees (builtin : Builtin) : Prop := ∀ env args,
  builtin.signature.Fits args → Faithful (builtin.run env args)

namespace Builtins

open Args

namespace Strings

theorem agrees_ofText {id : UInt32} {compute : String → Value} :
    (ofText id name result compute).Agrees :=
  fun _ _ fits => (reads_string fits rfl).bind fun _ => faithful_pure _

theorem agrees_split : split.Agrees := by
  intro env args fits
  refine (reads_string fits rfl).bind fun text => ?_
  refine (reads_string fits rfl).bind fun separator => ?_
  exact .ite (faithful_throw nofun) (faithful_pure _)

theorem agrees_contains : contains.Agrees := by
  intro env args fits
  refine (reads_string fits rfl).bind fun text => ?_
  exact (reads_string fits rfl).bind fun needle => faithful_pure _

theorem agrees_all : ∀ builtin ∈ all, builtin.Agrees := by
  simp only [all, List.forall_mem_cons]
  exact ⟨agrees_ofText, agrees_ofText, agrees_ofText, agrees_ofText, agrees_split,
    agrees_contains, agrees_ofText, List.forall_mem_nil _⟩

end Strings

namespace ByteStrings

theorem agrees_length : length.Agrees := fun _ _ fits =>
  (reads_bytes fits rfl).bind fun _ => faithful_pure _

theorem agrees_toText : toText.Agrees := by
  intro env args fits
  refine (reads_bytes fits rfl).bind fun data => ?_
  split
  · exact faithful_pure _
  · exact faithful_throw nofun

private theorem not_misread_of_sliceOf {data : Bytes} {start last : Int} {fault : CallFault}
    (failed : sliceOf data start last = .error fault) : ¬Misread (.invalidArgument fault) := by
  rw [sliceOf] at failed
  split at failed
  · cases failed
    nofun
  · split at failed
    · cases failed
      nofun
    · split at failed <;> cases failed
      nofun

theorem agrees_slice : slice.Agrees := by
  intro env args fits
  refine (reads_bytes fits rfl).bind fun data => ?_
  refine (reads_int fits rfl).bind fun start => ?_
  refine (reads_int fits rfl).bind fun last => ?_
  split
  · exact faithful_pure _
  · exact faithful_throw (not_misread_of_sliceOf ‹_›)

theorem agrees_concat : concat.Agrees := by
  intro env args fits
  refine (reads_bytes fits rfl).bind fun data => ?_
  exact (reads_bytes fits rfl).bind fun other => faithful_pure _

theorem agrees_all : ∀ builtin ∈ all, builtin.Agrees := by
  simp only [all, List.forall_mem_cons]
  exact ⟨agrees_length, agrees_toText, agrees_slice, agrees_concat, List.forall_mem_nil _⟩

end ByteStrings

namespace Lists

theorem agrees_length : length.Agrees := fun _ _ fits =>
  (reads_list fits rfl).bind fun _ => faithful_pure _

theorem agrees_get : get.Agrees := by
  intro env args fits
  refine (reads_list fits rfl).bind fun items => ?_
  exact (reads_int fits rfl).bind fun index => faithful_pure _

theorem agrees_append : append.Agrees := by
  intro env args fits
  refine (reads_list fits rfl).bind fun items => ?_
  exact (reads_any fits rfl).bind fun value => faithful_pure _

theorem agrees_reverse : reverse.Agrees := fun _ _ fits =>
  (reads_list fits rfl).bind fun _ => faithful_pure _

/-- A function of the program fails for reasons of its own. -/
theorem faithful_invoke (env : Environment) (ref : ClosureRef) (args : List Value) :
    Faithful (env.invoke ref args) := by
  rw [Environment.invoke]
  split
  · exact faithful_host _
  · refine faithful_get.bind fun world => (faithful_set _).bind fun _ => ?_
    exact faithful_ofHost _

theorem faithful_mapItems (env : Environment) (ref : ClosureRef) (items : List Value) :
    Faithful (mapItems env ref items) := by
  induction items with
  | nil => exact faithful_pure _
  | cons item rest ih =>
    refine (faithful_invoke env ref [item]).bind fun result => ?_
    exact ih.bind fun more => faithful_pure _

theorem faithful_filterItems (env : Environment) (ref : ClosureRef) (items : List Value) :
    Faithful (filterItems env ref items) := by
  induction items with
  | nil => exact faithful_pure _
  | cons item rest ih =>
    refine (faithful_invoke env ref [item]).bind fun result => ?_
    split
    · exact ih.bind fun more => faithful_pure _
    · exact ih
    · exact faithful_host _

theorem agrees_map : map.Agrees := by
  intro env args fits
  refine (reads_list fits rfl).bind fun items => ?_
  refine (reads_closure fits rfl).bind fun ref => ?_
  exact (faithful_mapItems env ref items).bind fun results => faithful_pure _

theorem agrees_filter : filter.Agrees := by
  intro env args fits
  refine (reads_list fits rfl).bind fun items => ?_
  refine (reads_closure fits rfl).bind fun ref => ?_
  exact (faithful_filterItems env ref items).bind fun kept => faithful_pure _

theorem agrees_all : ∀ builtin ∈ all, builtin.Agrees := by
  simp only [all, List.forall_mem_cons]
  exact ⟨agrees_length, agrees_get, agrees_append, agrees_reverse, agrees_map, agrees_filter,
    List.forall_mem_nil _⟩

end Lists

namespace Dicts

theorem faithful_receiver {signature : Signature} (fits : signature.Fits args)
    (declared : signature.paramTypes[0]?.map TypeDesc.kind = some .dict) :
    Faithful (receiver args) :=
  (reads_dict fits declared).bind fun _ => faithful_get.bind fun _ => faithful_pure _

theorem agrees_length : length.Agrees := fun _ _ fits =>
  (faithful_receiver fits rfl).bind fun _ => faithful_pure _

theorem agrees_get : get.Agrees := by
  intro env args fits
  refine (faithful_receiver fits rfl).bind fun (_, map) => ?_
  exact (reads_string fits rfl).bind fun key => faithful_pure _

theorem agrees_set : set.Agrees := by
  intro env args fits
  refine (faithful_receiver fits rfl).bind fun (ref, map) => ?_
  refine (reads_string fits rfl).bind fun key => ?_
  refine (reads_any fits rfl).bind fun value => ?_
  exact (faithful_modify _).bind fun _ => faithful_pure _

theorem agrees_remove : remove.Agrees := by
  intro env args fits
  refine (faithful_receiver fits rfl).bind fun (ref, map) => ?_
  refine (reads_string fits rfl).bind fun key => ?_
  exact (faithful_modify _).bind fun _ => faithful_pure _

theorem agrees_keys : keys.Agrees := fun _ _ fits =>
  (faithful_receiver fits rfl).bind fun _ => faithful_pure _

theorem agrees_has : has.Agrees := by
  intro env args fits
  refine (faithful_receiver fits rfl).bind fun (_, map) => ?_
  exact (reads_string fits rfl).bind fun key => faithful_pure _

theorem agrees_all : ∀ builtin ∈ all, builtin.Agrees := by
  simp only [all, List.forall_mem_cons]
  exact ⟨agrees_length, agrees_get, agrees_set, agrees_remove, agrees_keys, agrees_has,
    List.forall_mem_nil _⟩

end Dicts

namespace Optionals

theorem agrees_isSome : isSome.Agrees := fun _ _ fits =>
  (reads_optional fits rfl).bind fun _ => faithful_pure _

theorem agrees_unwrapOr : unwrapOr.Agrees := by
  intro env args fits
  refine (reads_optional fits rfl).bind fun content => ?_
  exact (reads_any fits rfl).bind fun default => faithful_pure _

theorem agrees_all : ∀ builtin ∈ all, builtin.Agrees := by
  simp only [all, List.forall_mem_cons]
  exact ⟨agrees_isSome, agrees_unwrapOr, List.forall_mem_nil _⟩

end Optionals

namespace Introspection

theorem agrees_typeOfValue : typeOfValue.Agrees := fun _ _ fits =>
  (reads_any fits rfl).bind fun _ => faithful_pure _

theorem agrees_makeError : makeError.Agrees := fun _ _ fits =>
  (reads_string fits rfl).bind fun _ => faithful_pure _

theorem agrees_errorMessage : errorMessage.Agrees := fun _ _ fits =>
  (reads_error fits rfl).bind fun _ => faithful_pure _

theorem agrees_all : ∀ builtin ∈ all, builtin.Agrees := by
  simp only [all, List.forall_mem_cons]
  exact ⟨agrees_typeOfValue, agrees_makeError, agrees_errorMessage, List.forall_mem_nil _⟩

end Introspection

namespace Time

theorem agrees_now : now.Agrees := fun _ _ _ => faithful_get.bind fun _ => faithful_pure _

theorem agrees_sleep : sleep.Agrees := by
  intro env args fits
  refine (reads_int fits rfl).bind fun duration => ?_
  exact .ite (faithful_throw nofun) ((faithful_modify _).bind fun _ => faithful_pure _)

theorem agrees_all : ∀ builtin ∈ all, builtin.Agrees := by
  simp only [all, List.forall_mem_cons]
  exact ⟨agrees_now, agrees_sleep, List.forall_mem_nil _⟩

end Time

namespace Console

theorem faithful_printVia {signature : Signature} (fits : signature.Fits args)
    (declared : signature.paramTypes[0]?.map TypeDesc.kind = some .any)
    (write : ScriptHost.Console → String → ScriptHost.Console) (behind : String)
    (env : Environment) : Faithful (printVia write behind env args) := by
  refine (reads_any fits declared).bind fun value => ?_
  refine (faithful_need _ _).bind fun _ => faithful_get.bind fun world => ?_
  split
  · exact faithful_host _
  · exact (faithful_set _).bind fun _ => faithful_pure _

theorem agrees_print : print.Agrees := fun env _ fits => faithful_printVia fits rfl _ _ env

theorem agrees_printLine : printLine.Agrees := fun env _ fits =>
  faithful_printVia fits rfl _ _ env

theorem agrees_printErrorLine : printErrorLine.Agrees := fun env _ fits =>
  faithful_printVia fits rfl _ _ env

theorem agrees_readLine : readLine.Agrees := by
  intro env args fits
  refine (faithful_need _ _).bind fun _ => faithful_get.bind fun world => ?_
  refine (faithful_set _).bind fun _ => ?_
  split
  · exact faithful_pure _
  · exact faithful_host _

theorem agrees_all : ∀ builtin ∈ all, builtin.Agrees := by
  simp only [all, List.forall_mem_cons]
  exact ⟨agrees_print, agrees_printLine, agrees_printErrorLine, agrees_readLine,
    List.forall_mem_nil _⟩

end Console

namespace Files

theorem agrees_openFile : openFile.Agrees := by
  intro env args fits
  refine (reads_string fits rfl).bind fun path => ?_
  refine (faithful_need _ _).bind fun _ => ?_
  refine (reads_string fits rfl).bind fun mode => ?_
  exact (faithful_hostStep _ _).bind fun handle => faithful_pure _

theorem agrees_read : read.Agrees := by
  intro env args fits
  refine (reads_handle fits rfl).bind fun handle => ?_
  refine (faithful_need _ _).bind fun _ => ?_
  refine (reads_int fits rfl).bind fun count => ?_
  exact (faithful_hostStep _ _).bind fun data => faithful_pure _

theorem agrees_write : write.Agrees := by
  intro env args fits
  refine (reads_handle fits rfl).bind fun handle => ?_
  refine (faithful_need _ _).bind fun _ => ?_
  refine (reads_bytes fits rfl).bind fun data => ?_
  exact (faithful_hostStep _ _).bind fun count => faithful_pure _

theorem agrees_close : close.Agrees := by
  intro env args fits
  refine (faithful_need _ _).bind fun _ => ?_
  refine (reads_handle fits rfl).bind fun handle => ?_
  exact (faithful_hostStep _ _).bind fun _ => faithful_pure _

theorem agrees_pathExists : pathExists.Agrees := by
  intro env args fits
  refine (reads_string fits rfl).bind fun path => ?_
  refine (faithful_need _ _).bind fun _ => faithful_get.bind fun world => ?_
  exact (faithful_ofHost _).bind fun found => faithful_pure _

theorem agrees_remove : remove.Agrees := by
  intro env args fits
  refine (reads_string fits rfl).bind fun path => ?_
  refine (faithful_need _ _).bind fun _ => ?_
  exact (faithful_hostStep _ _).bind fun _ => faithful_pure _

theorem agrees_makeDirectory : makeDirectory.Agrees := by
  intro env args fits
  refine (reads_string fits rfl).bind fun path => ?_
  refine (faithful_need _ _).bind fun _ => ?_
  exact (faithful_hostStep _ _).bind fun _ => faithful_pure _

theorem agrees_execRoot : execRoot.Agrees := fun _ _ _ => faithful_pure _

theorem agrees_all : ∀ builtin ∈ all, builtin.Agrees := by
  simp only [all, List.forall_mem_cons]
  exact ⟨agrees_openFile, agrees_read, agrees_write, agrees_close, agrees_pathExists,
    agrees_remove, agrees_makeDirectory, agrees_execRoot, List.forall_mem_nil _⟩

end Files

namespace Sockets

theorem agrees_connect : connect.Agrees := by
  intro env args fits
  refine (reads_string fits rfl).bind fun host => ?_
  refine (reads_int fits rfl).bind fun port => ?_
  refine (faithful_need _ _).bind fun _ => ?_
  exact (faithful_hostStep _ _).bind fun handle => faithful_pure _

theorem agrees_listen : listen.Agrees := by
  intro env args fits
  refine (reads_string fits rfl).bind fun host => ?_
  refine (reads_int fits rfl).bind fun port => ?_
  refine (faithful_need _ _).bind fun _ => ?_
  exact (faithful_hostStep _ _).bind fun handle => faithful_pure _

theorem agrees_accept : accept.Agrees := by
  intro env args fits
  refine (reads_handle fits rfl).bind fun server => ?_
  refine (faithful_need _ _).bind fun _ => faithful_get.bind fun world => ?_
  refine (faithful_ofHost _).bind fun listener => ?_
  exact (faithful_modify _).bind fun _ => Suspended.faithful_advance _ env

theorem agrees_read : read.Agrees := by
  intro env args fits
  refine (reads_handle fits rfl).bind fun handle => ?_
  refine (faithful_need _ _).bind fun _ => ?_
  refine (reads_int fits rfl).bind fun count => ?_
  refine (faithful_ofHost _).bind fun limit => faithful_get.bind fun world => ?_
  refine (faithful_ofHost _).bind fun endpoint => ?_
  exact .ite (faithful_pure _) (Suspended.faithful_advance _ env)

theorem agrees_write : write.Agrees := by
  intro env args fits
  refine (reads_handle fits rfl).bind fun handle => ?_
  refine (faithful_need _ _).bind fun _ => ?_
  refine (reads_bytes fits rfl).bind fun data => ?_
  exact (faithful_hostStep _ _).bind fun count => faithful_pure _

theorem agrees_close : close.Agrees := by
  intro env args fits
  refine (faithful_need _ _).bind fun _ => ?_
  refine (reads_handle fits rfl).bind fun handle => ?_
  exact (faithful_hostStep _ _).bind fun _ => faithful_pure _

theorem agrees_localPort : localPort.Agrees := by
  intro env args fits
  refine (faithful_need _ _).bind fun _ => ?_
  refine (reads_handle fits rfl).bind fun handle => faithful_get.bind fun world => ?_
  exact (faithful_ofHost _).bind fun port => faithful_pure _

theorem agrees_all : ∀ builtin ∈ all, builtin.Agrees := by
  simp only [all, List.forall_mem_cons]
  exact ⟨agrees_connect, agrees_listen, agrees_accept, agrees_read, agrees_write, agrees_close,
    agrees_localPort, List.forall_mem_nil _⟩

end Sockets

namespace Http

theorem agrees_request : request.Agrees := by
  intro env args fits
  refine (reads_string fits rfl).bind fun method => ?_
  refine (reads_string fits rfl).bind fun url => faithful_get.bind fun world => ?_
  refine (reads_headers fits world.heap rfl).bind fun headers => ?_
  refine (reads_body fits rfl).bind fun body => ?_
  refine (faithful_need _ _).bind fun _ => ?_
  refine (faithful_ofHost _).bind fun answer => ?_
  exact (faithful_newHeaders _).bind fun headers => faithful_pure _

theorem agrees_listen : listen.Agrees := by
  intro env args fits
  refine (reads_string fits rfl).bind fun host => ?_
  refine (reads_int fits rfl).bind fun port => ?_
  refine (faithful_need _ _).bind fun _ => ?_
  exact (faithful_hostStep _ _).bind fun handle => faithful_pure _

theorem agrees_accept : accept.Agrees := by
  intro env args fits
  refine (reads_handle fits rfl).bind fun server => ?_
  refine (faithful_need _ _).bind fun _ => faithful_get.bind fun world => ?_
  refine (faithful_ofHost _).bind fun listener => ?_
  exact (faithful_modify _).bind fun _ => Suspended.faithful_advance _ env

theorem agrees_respond : respond.Agrees := by
  intro env args fits
  refine (reads_handle fits rfl).bind fun handle => ?_
  refine (reads_int fits rfl).bind fun status => faithful_get.bind fun world => ?_
  refine (reads_headers fits world.heap rfl).bind fun headers => ?_
  refine (faithful_need _ _).bind fun _ => ?_
  refine (reads_bytes fits rfl).bind fun body => ?_
  exact (faithful_hostStep _ _).bind fun _ => faithful_pure _

theorem agrees_close : close.Agrees := by
  intro env args fits
  refine (faithful_need _ _).bind fun _ => ?_
  refine (reads_handle fits rfl).bind fun handle => ?_
  exact (faithful_hostStep _ _).bind fun _ => faithful_pure _

theorem agrees_localPort : localPort.Agrees := by
  intro env args fits
  refine (faithful_need _ _).bind fun _ => ?_
  refine (reads_handle fits rfl).bind fun handle => faithful_get.bind fun world => ?_
  exact (faithful_ofHost _).bind fun port => faithful_pure _

theorem agrees_all : ∀ builtin ∈ all, builtin.Agrees := by
  simp only [all, List.forall_mem_cons]
  exact ⟨agrees_request, agrees_listen, agrees_accept, agrees_respond, agrees_close,
    agrees_localPort, List.forall_mem_nil _⟩

end Http

end Builtins

open Builtins

theorem agrees_of_standard (member : builtin ∈ standardBuiltins) : builtin.Agrees := by
  simp only [standardBuiltins, List.mem_append] at member
  rcases member with (((((((((files | sockets) | http) | time) | console) | introspection) |
    strings) | bytes) | lists) | dicts) | optionals
  · exact Files.agrees_all builtin files
  · exact Sockets.agrees_all builtin sockets
  · exact Http.agrees_all builtin http
  · exact Time.agrees_all builtin time
  · exact Console.agrees_all builtin console
  · exact Introspection.agrees_all builtin introspection
  · exact Strings.agrees_all builtin strings
  · exact ByteStrings.agrees_all builtin bytes
  · exact Lists.agrees_all builtin lists
  · exact Dicts.agrees_all builtin dicts
  · exact Optionals.agrees_all builtin optionals

namespace Registry

variable {registry : Registry} {builtins : List Builtin}

/-- What is found by its number is called as its signature says. -/
theorem Holds.called {id : BuiltinId} (holds : Holds registry builtins)
    (found : registry.findById? id = some builtin) (env : Environment) (args : List Value) :
    Called builtin env args (registry.call id env args) := by
  have valid := holds.valid builtin ((holds.byId id builtin).mp found).1
  rw [call, found]
  exact called_of_validate valid env args

private theorem faithful_of_no_target {callee : Callee} (env : Environment)
    (missing : registry.target? args callee = none) :
    Faithful (registry.callNamed env args callee) := by
  cases callee with
  | id id =>
    rw [callNamed, call, show registry.findById? id = none from missing]
    exact faithful_throw (by rintro ⟨⟩)
  | name name =>
    rw [callNamed, callByName, show registry.findByName? name = none from missing]
    exact faithful_throw (by rintro ⟨⟩)
  | method name =>
    cases args with
    | nil => exact faithful_throw (by rintro ⟨⟩)
    | cons receiver rest =>
      rw [callNamed, callMethod, show registry.findMethod? receiver.kind name = none from missing]
      exact faithful_throw (by rintro ⟨⟩)

theorem Holds.faithful_callNamed (holds : Holds registry builtins)
    (agrees : ∀ builtin ∈ builtins, builtin.Agrees) (env : Environment) (args : List Value)
    (callee : Callee) : Faithful (registry.callNamed env args callee) := by
  cases found : registry.target? args callee with
  | none => exact faithful_of_no_target env found
  | some builtin =>
    have member := mem_of_target holds found
    have called := called_of_validate (holds.valid builtin member) env args
    rw [callNamed_of_target found]
    generalize builtin.call env args = action at called ⊢
    cases called with
    | miscounted => exact faithful_throw nofun
    | mistyped => exact faithful_throw nofun
    | runs fits => exact agrees builtin member env args fits

end Registry

/-- A call in which no attempt misreads an argument does not either, however often it waits. -/
theorem Faithful.not_misread {action : Action Progress} (faithful : Faithful action)
    (returned : Returns meanwhile env action before (.error error) after) : ¬Misread error := by
  have judged (action : Action Progress) (faithful : Faithful action) (before : World) :
      Ends action before (fun error _ => ¬Misread error)
        (Progress.Meets (fun _ _ => True) fun _ _ => True) := by
    refine (faithful before).imp (fun _ _ => id) fun progress _ _ => ?_
    cases progress <;> trivial
  exact returned.meets (fun error _ => ¬Misread error) (fun _ _ => True) (fun _ _ => True)
    (judged action faithful before) fun call _ later _ _ =>
      judged _ (call.faithful_advance env) later

/-- In a registry that took what it could of any builtins, the standard ones among them, a call by
number is checked by the signature of its builtin; and however a standard builtin is named, its call
never fails because an argument is missing or has another tag than the one it is read with. -/
theorem arguments_agree :
    (∀ (offered : List Builtin) (id : BuiltinId) (builtin : Builtin) (env : Environment)
        (args : List Value),
      (Registry.empty.registerAll offered).findById? id = some builtin →
        Called builtin env args ((Registry.empty.registerAll offered).call id env args)) ∧
      ∀ (meanwhile : World → World → Prop) (env : Environment) (args : List Value)
        (callee : Callee) (before after : World) (error : BuiltinError),
        Returns meanwhile env (standardRegistry.callNamed env args callee) before (.error error)
            after →
          ¬Misread error := by
  constructor
  · intro offered id builtin env args found
    exact (Registry.holds_registerAll offered).called found env args
  · intro meanwhile env args callee before after error returned
    have faithful := holds_standardRegistry.faithful_callNamed (fun _ => agrees_of_standard) env
      args callee
    exact faithful.not_misread returned

theorem arguments_agree_slice :
    let args : List Value := [.bytes [], .int 2, .int 2]
    let error : BuiltinError := .invalidArgument (.startOutOfRange 2 0)
    standardRegistry.findById? ⟨1102⟩ = some ByteStrings.slice ∧
      Called ByteStrings.slice {} args (standardRegistry.call ⟨1102⟩ {} args) ∧
      Returns (fun _ _ => False) {} (standardRegistry.callNamed {} args (.id ⟨1102⟩)) {}
        (.error error) {} ∧ ¬Misread error := by
  intro args error
  have member : ByteStrings.slice ∈ standardBuiltins := by simp [standardBuiltins, ByteStrings.all]
  have found : standardRegistry.findById? ⟨1102⟩ = some ByteStrings.slice :=
    (holds_standardRegistry.byId _ _).mpr ⟨member, rfl⟩
  have returned : Returns (fun _ _ => False) {}
      (standardRegistry.callNamed {} args (.id ⟨1102⟩)) {} (.error error) {} := by
    have target : standardRegistry.target? args (.id ⟨1102⟩) = some ByteStrings.slice := found
    rw [Registry.callNamed_of_target target]
    exact .fails rfl
  exact ⟨found, arguments_agree.1 standardBuiltins _ _ {} args found, returned,
    arguments_agree.2 _ _ _ _ _ _ _ returned⟩

end ScriptHost
