import ScriptHost.Proofs.Builtins.Standard

/-! A call that fails takes nothing from a program and gives it nothing, except that a request whose
answer cannot be sent is gone. Unless the system failed, it leaves the whole world as it was. -/
namespace ScriptHost

open Builtins

/-- What a failed call of a builtin leaves as it was. -/
structure Spared (builtin? : Option Builtin) (args : List Value) (before : World)
    (error : BuiltinError) (after : World) : Prop where
  unlessSystem : error.kind ≠ .io → after = before
  heap : after.heap = before.heap
  files : after.files = before.files
  sockets : after.sockets = before.sockets
  http : after.http = before.http ∨ error.kind = .io ∧ builtin? = some Http.respond ∧
    ∃ handle, Args.handle args 0 = .ok handle ∧ before.http.requests.contains handle = true ∧
      after.http = { before.http with requests := before.http.requests.drop handle }

variable {builtin? : Option Builtin} {args : List Value} {before after : World}
  {error : BuiltinError}

theorem Harmless.spared (harmless : Harmless before error after) :
    Spared builtin? args before error after := by
  rcases harmless with rfl | ⟨kind, kept⟩
  · exact ⟨fun _ => rfl, rfl, rfl, rfl, .inl rfl⟩
  · exact ⟨fun notSystem => absurd kind notSystem, kept.heap, kept.files, kept.sockets,
      .inl kept.http⟩

theorem Builtins.Http.Unanswered.spared (unanswered : Http.Unanswered args before error after) :
    Spared (some Http.respond) args before error after :=
  ⟨fun notSystem => absurd unanswered.kind notSystem, unanswered.heap, unanswered.files,
    unanswered.sockets, .inr ⟨unanswered.kind, rfl, unanswered.request⟩⟩

/-- The first attempt at a call spares the world if it fails, and has changed nothing yet if it has
to wait. -/
def Builtin.Sparing (builtin : Builtin) : Prop := ∀ env args before,
  Ends (builtin.run env args) before (Spared (some builtin) args before)
    (Progress.Meets (fun _ _ => True) fun call after => before.Keeps after ∧ call.Held after)

theorem Builtin.Regular.sparing {builtin : Builtin} (regular : builtin.Regular) :
    builtin.Sparing := fun env args before =>
  (regular env args before).imp (fun _ _ => Harmless.spared)
    (Progress.Meets.imp (fun _ _ _ => trivial) fun _ _ waits => ⟨waits.1, waits.2.1⟩)

theorem sparing_of_standard (member : builtin ∈ standardBuiltins) (notMap : builtin ≠ Lists.map)
    (notFilter : builtin ≠ Lists.filter) : builtin.Sparing := by
  by_cases special : Special builtin
  · intro env args before
    cases special with
    | respond =>
      refine (Http.ends_respond env args before).imp ?_
        (Progress.Meets.imp (fun _ _ _ => trivial) fun _ _ waits => ⟨waits.1, waits.2.1⟩)
      rintro error after (rfl | unanswered)
      · exact (harmless after error).spared
      · exact unanswered.spared
    | set =>
      refine (Dicts.ends_set env args before).imp ?_ ?_
      · rintro error after rfl
        exact (harmless after error).spared
      · rintro progress after ⟨_, _, _, _, _, _, rfl, _⟩
        trivial
    | remove =>
      refine (Dicts.ends_remove env args before).imp ?_ ?_
      · rintro error after rfl
        exact (harmless after error).spared
      · rintro progress after ⟨_, _, _, _, rfl, _⟩
        trivial
    | map => exact absurd rfl notMap
    | filter => exact absurd rfl notFilter
  · exact (regular_of_standard member special).sparing

/-- If only the system and the peers move while a call waits, the whole call spares the world. -/
theorem Registry.spared_of_sparing {registry : Registry}
    (sparing : ∀ builtin, registry.target? args callee = some builtin → builtin.Sparing)
    (returned : Returns World.Keeps env (registry.callNamed env args callee) before (.error error)
      after) :
    Spared (registry.target? args callee) args before error after := by
  cases found : registry.target? args callee with
  | none =>
    obtain ⟨fault, thrown, _⟩ := Registry.callNamed_of_no_target env found
    rw [thrown] at returned
    exact returned.meets (Spared none args before) (fun _ _ => True) (fun _ _ => False)
      ((ends_throw ..).mpr (harmless before fault).spared) fun _ _ _ waits _ => waits.elim
  | some builtin =>
    rw [Registry.callNamed_of_target found, Builtin.call] at returned
    refine returned.meets (Spared (some builtin) args before) (fun _ _ => True)
      (fun call between => before.Keeps between ∧ call.Held between)
      (ends_check (fun fault => (harmless before fault).spared) fun _ _ =>
        sparing builtin found env args before) ?_
    intro call between later waits moved
    refine (call.begins (waits.2.of_keeps moved) (waits.1.trans moved)).imp ?_
      (Progress.Meets.imp ?_ ?_)
    · exact fun _ _ => Harmless.spared
    · exact fun _ _ _ => trivial
    · exact fun _ _ goesOn => ⟨goesOn.1, goesOn.2.1⟩

/-- A failed call of a standard builtin that calls no function of the program leaves the world as it
was, unless the system failed; then it leaves what programs hold as it was, except for the request
that could not be answered. -/
theorem spared_of_fails
    (noFunction : ∀ builtin, standardRegistry.target? args callee = some builtin →
      builtin ≠ Lists.map ∧ builtin ≠ Lists.filter)
    (returned : Returns World.Keeps env (standardRegistry.callNamed env args callee) before
      (.error error) after) :
    Spared (standardRegistry.target? args callee) args before error after := by
  refine Registry.spared_of_sparing ?_ returned
  intro builtin found
  obtain ⟨notMap, notFilter⟩ := noFunction builtin found
  have member := Registry.mem_of_target holds_standardRegistry found
  exact sparing_of_standard member notMap notFilter

/-- The connection of the one accepted request is broken: the request is gone. -/
theorem spared_of_fails_respond :
    let handle := Handle.afterIssuing 0
    let http : HttpService :=
      { requests := Table.store { kind := .httpRequest } handle ⟨0, .http11, false⟩ }
    let network : Network := { faults := fun _ => some (.os .brokenPipe) }
    let args : List Value := [.ofHandle handle, .int 200, .dict ⟨0⟩, .bytes []]
    let error : BuiltinError := .host (.io .respond (.os .brokenPipe))
    let after : World :=
      { http := { http with requests := http.requests.drop handle }, network := network.shutDown 0 }
    (∀ builtin, standardRegistry.target? args (.name "http.respond") = some builtin →
        builtin ≠ Lists.map ∧ builtin ≠ Lists.filter) ∧
      Returns World.Keeps {} (standardRegistry.callNamed {} args (.name "http.respond"))
        { http, network } (.error error) after ∧
      Spared (standardRegistry.target? args (.name "http.respond")) args { http, network } error
        after := by
  intro handle http network args error after
  have member : Http.respond ∈ standardBuiltins := by simp [standardBuiltins, Http.all]
  have found : standardRegistry.target? args (.name "http.respond") = some Http.respond :=
    Registry.target?_name holds_standardRegistry member rfl
  have noFunction : ∀ builtin, standardRegistry.target? args (.name "http.respond") = some builtin →
      builtin ≠ Lists.map ∧ builtin ≠ Lists.filter := by
    intro builtin named
    obtain rfl : Http.respond = builtin := Option.some.inj (found.symm.trans named)
    have ids : Http.respond.signature.id ≠ Lists.map.signature.id ∧
        Http.respond.signature.id ≠ Lists.filter.signature.id := by decide
    exact ⟨fun same => ids.1 (same ▸ rfl), fun same => ids.2 (same ▸ rfl)⟩
  have ran : (Http.respond.call {} args).runIn { http, network } = (.error error, after) := by
    subst handle http network args error after
    rfl
  have returned : Returns World.Keeps {}
      (standardRegistry.callNamed {} args (.name "http.respond")) { http, network } (.error error)
      after := by
    rw [Registry.callNamed_of_target found]
    exact .fails ran
  exact ⟨noFunction, returned, spared_of_fails noFunction returned⟩

end ScriptHost
