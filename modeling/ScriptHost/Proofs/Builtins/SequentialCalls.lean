import ScriptHost.Proofs.Builtins.SharedDicts

/-!
The methods of lists that run a function of the program run it on one item after the other. What a
function keeps from one run to the next stands in the world, as the contents of a dict for instance.
-/
namespace ScriptHost

open Builtins

/-- A run of a function: what it was given and what came of it. -/
structure Invocation where
  args : List Value
  answer : Except HostError Value

/-- Runs of one function, each in the world that the run before it left. -/
inductive InvokesInTurn (env : Environment) (ref : ClosureRef) :
    World → List Invocation → World → Prop where
  | nothing : InvokesInTurn env ref world [] world
  | invoke (given : env.invoker = some invoker)
      (ran : invoker (world.heap.closure ref) args world = (answer, between))
      (rest : InvokesInTurn env ref between runs after) :
      InvokesInTurn env ref world (⟨args, answer⟩ :: runs) after

/-- How runs of a function on items end when each has to answer with the value that some result
stands for. Behind a run that fails or answers with another value there is none. -/
inductive RunsEnd (env : Environment) (shown : α → Value) (items : List Value) :
    List (Except HostError Value) → Except HostError (List α) → Prop where
  | finished (results : List α) (all : results.length = items.length) :
      RunsEnd env shown items (results.map fun result => .ok (shown result)) (.ok results)
  | failed (results : List α) (error : HostError) :
      RunsEnd env shown items
        (results.map (fun result => .ok (shown result)) ++ [.error error]) (.error error)
  | unfit (results : List α) (value : Value) (other : ∀ result, shown result ≠ value) :
      RunsEnd env shown items
        (results.map (fun result => .ok (shown result)) ++ [.ok value])
        (.error (.callback (.notBool value.typeName)))
  | unserved (missing : env.invoker = none) (some : items ≠ []) :
      RunsEnd env shown items [] (.error (.missingService .closures))

/-- A function is run once per item, with that item alone, from left to right, until the runs
end. -/
structure RunsAlong (env : Environment) (ref : ClosureRef) (shown : α → Value)
    (items : List Value) (before : World) (runs : List Invocation)
    (outcome : Except HostError (List α)) (after : World) : Prop where
  inTurn : InvokesInTurn env ref before runs after
  singly : runs.map (·.args) = (items.take runs.length).map ([·])
  ends : RunsEnd env shown items (runs.map (·.answer)) outcome

section

variable {env : Environment} {ref : ClosureRef} {shown : α → Value} {item : Value}
  {items : List Value} {before between after : World} {runs : List Invocation}
  {outcome : Except HostError (List α)} {invoker : Invoker}

theorem RunsEnd.cons {answers : List (Except HostError Value)} (result : α)
    (ends : RunsEnd env shown items answers outcome) (served : env.invoker ≠ none) :
    RunsEnd env shown (item :: items) (.ok (shown result) :: answers)
      (outcome.map (result :: ·)) := by
  cases ends with
  | finished results all => exact .finished (result :: results) (congrArg (· + 1) all)
  | failed results error => exact .failed (result :: results) error
  | unfit results value other => exact .unfit (result :: results) value other
  | unserved missing _ => exact absurd missing served

/-- The first run answers as it should, and the others follow. -/
theorem RunsAlong.cons (given : env.invoker = some invoker) (result : α)
    (ran : invoker (before.heap.closure ref) [item] before = (.ok (shown result), between))
    (along : RunsAlong env ref shown items between runs outcome after) :
    RunsAlong env ref shown (item :: items) before (⟨[item], .ok (shown result)⟩ :: runs)
      (outcome.map (result :: ·)) after where
  inTurn := .invoke given ran along.inTurn
  singly := congrArg ([item] :: ·) along.singly
  ends := along.ends.cons result (by simp [given])

/-- The first run is the last, since it fails or answers with a value that stands for nothing. -/
theorem RunsAlong.last (given : env.invoker = some invoker)
    (ran : invoker (before.heap.closure ref) [item] before = (answer, after))
    (ends : RunsEnd env shown (item :: items) [answer] outcome) :
    RunsAlong env ref shown (item :: items) before [⟨[item], answer⟩] outcome after where
  inTurn := .invoke given ran .nothing
  singly := rfl
  ends := ends

end

/-- An action runs a function along items. It gives what is made of the results, or fails as the
runs do, and nothing but the runs changes the world. -/
def GoesAlong (env : Environment) (ref : ClosureRef) (shown : α → Value) (items : List Value)
    (give : List α → β) (before : World) (action : Action β) : Prop :=
  ∃ runs outcome after, RunsAlong env ref shown items before runs outcome after ∧
    action.runIn before = ((outcome.map give).mapError .host, after)

/-- The items whose run answered true. -/
def kept (items : List Value) (truths : List Bool) : List Value :=
  ((items.zip truths).filter (·.2)).map (·.1)

section

variable {env : Environment} {ref : ClosureRef} {shown : α → Value} {give : List α → β}
  {items rest : List Value} {before : World} {action : Action β}

theorem goesAlong_nil : GoesAlong env ref shown [] give before (pure (give [])) :=
  ⟨[], .ok [], before, ⟨.nothing, rfl, .finished [] rfl⟩, rfl⟩

theorem GoesAlong.map (goes : GoesAlong env ref shown items give before action)
    (change : β → γ) :
    GoesAlong env ref shown items (fun results => change (give results)) before
      (change <$> action) := by
  obtain ⟨runs, outcome, after, along, ran⟩ := goes
  refine ⟨runs, outcome, after, along, ?_⟩
  change (ExceptT.map change action).run before = _
  have same : action before = ((outcome.map give).mapError .host, after) := ran
  simp only [ExceptT.map, ExceptT.mk, ExceptT.run, bind, StateT.bind, same]
  cases outcome <;> rfl

theorem runIn_invoke_bind {next : Value → Action β} (given : env.invoker = some invoker) :
    (env.invoke ref args >>= next).runIn before =
      match invoker (before.heap.closure ref) args before with
      | (.ok value, between) => (next value).runIn between
      | (.error error, between) => (.error (.host error), between) := by
  rw [Environment.invoke, given]
  change (Action.ofHost (invoker (before.heap.closure ref) args before).1 >>= next).run
    (invoker (before.heap.closure ref) args before).2 = _
  rcases invoker (before.heap.closure ref) args before with ⟨_ | _, between⟩ <;> rfl

/-- A function is run on the first item. If the answer stands for a result, what is behind goes
along the rest; if it does not, that is the failure. -/
theorem goesAlong_invoked {next : Value → Action β}
    (goes : ∀ result between,
      GoesAlong env ref shown rest (fun results => give (result :: results)) between
        (next (shown result)))
    (stops : ∀ value, (∀ result, shown result ≠ value) →
      next value = throw (.host (.callback (.notBool value.typeName)))) :
    GoesAlong env ref shown (item :: rest) give before (env.invoke ref [item] >>= next) := by
  cases given : env.invoker with
  | none =>
    have ran : env.invoke ref [item] = throw (.host (.missingService .closures)) := by
      rw [Environment.invoke, given]
    rw [ran]
    exact ⟨[], _, before, ⟨.nothing, rfl, .unserved given (List.cons_ne_nil item rest)⟩, rfl⟩
  | some invoker =>
    rcases ran : invoker (before.heap.closure ref) [item] before with ⟨error | value, between⟩
    · refine ⟨_, _, between, .last given ran (.failed [] error), ?_⟩
      rw [runIn_invoke_bind given, ran]
      rfl
    · by_cases fit : ∃ result, shown result = value
      · obtain ⟨result, rfl⟩ := fit
        obtain ⟨runs, outcome, after, along, later⟩ := goes result between
        refine ⟨_, _, after, .cons given result ran along, ?_⟩
        rw [runIn_invoke_bind given, ran]
        simp only [later]
        cases outcome <;> rfl
      · have other : ∀ result, shown result ≠ value := not_exists.mp fit
        refine ⟨_, _, between, .last given ran (.unfit [] value other), ?_⟩
        rw [runIn_invoke_bind given, ran]
        dsimp only
        rw [stops value other]
        rfl

theorem goesAlong_mapItems (env : Environment) (ref : ClosureRef) (items : List Value)
    (before : World) :
    GoesAlong env ref id items id before (Lists.mapItems env ref items) := by
  induction items generalizing before with
  | nil => exact goesAlong_nil
  | cons item rest ih =>
    refine goesAlong_invoked (fun result between => ?_) fun value other => absurd rfl (other value)
    exact (ih between).map (result :: ·)

theorem goesAlong_filterItems (env : Environment) (ref : ClosureRef) (items : List Value)
    (before : World) :
    GoesAlong env ref Value.bool items (kept items) before (Lists.filterItems env ref items) := by
  induction items generalizing before with
  | nil => exact goesAlong_nil
  | cons item rest ih =>
    refine goesAlong_invoked (fun truth between => ?_) fun value other => ?_
    · cases truth with
      | true => exact (ih between).map (item :: ·)
      | false => exact ih between
    · cases value with
      | bool truth => exact absurd rfl (other truth)
      | _ => rfl

end

/-- However they are called, the two methods run a function on the items of a list one by one, from
left to right. The first run that fails is the last and its error is that of the call, and the
worlds that the runs leave pass from one to the next. Where all runs answer, a mapping gives the
answers and a filter the items whose answer was true; a filter whose function answers with anything
but a truth value fails and names the type. An empty list needs no function. -/
theorem goesAlong_call (env : Environment) (ref : ClosureRef) (items : List Value)
    (before : World) (callee : Callee) :
    (standardRegistry.target? [.list items, .closure ref] callee = some Lists.map →
      GoesAlong env ref id items (fun results => .finished (.list results)) before
        (standardRegistry.callNamed env [.list items, .closure ref] callee)) ∧
    (standardRegistry.target? [.list items, .closure ref] callee = some Lists.filter →
      GoesAlong env ref Value.bool items (fun truths => .finished (.list (kept items truths))) before
        (standardRegistry.callNamed env [.list items, .closure ref] callee)) ∧
    ∀ builtin ∈ [Lists.map, Lists.filter],
      standardRegistry.target? [.list [], .closure ref] callee = some builtin →
      (standardRegistry.callNamed env [.list [], .closure ref] callee).runIn before =
        (.ok (.finished (.list [])), before) := by
  refine ⟨fun found => ?map, fun found => ?filter, fun builtin member found => ?empty⟩
  all_goals rw [Registry.callNamed_of_target found]
  case map => exact (goesAlong_mapItems env ref items before).map fun results =>
    Progress.finished (.list results)
  case filter => exact (goesAlong_filterItems env ref items before).map fun items =>
    Progress.finished (.list items)
  case empty =>
    rcases List.mem_pair.mp member with rfl | rfl <;> rfl

/-- A function notes each item in a dict and answers with the item. Filtering with it stops at the
item that is no truth value, behind which nothing is noted. -/
theorem goesAlong_call_noted :
    let note (item : Value) (world : World) : World :=
      { world with heap := world.heap.write (.set ⟨0⟩ item.typeName item) }
    let env : Environment := { invoker := some fun _ args world =>
      match args with
      | [item] => (.ok item, note item world)
      | _ => (.error (.callback (.reported "no item")), world) }
    let items : List Value := [.bool true, .int 1, .string "after"]
    let before : World := { heap := { dicts := #[SortedMap.empty] } }
    standardRegistry.target? [.list items, .closure ⟨0⟩] (.method "filter") =
        some Lists.filter ∧
      GoesAlong env ⟨0⟩ Value.bool items (fun truths => .finished (.list (kept items truths))) before
        (standardRegistry.callNamed env [.list items, .closure ⟨0⟩] (.method "filter")) ∧
      (standardRegistry.callNamed env [.list items, .closure ⟨0⟩] (.method "filter")).runIn before =
        (.error (.host (.callback (.notBool "int"))), note (.int 1) (note (.bool true) before)) := by
  intro note env items before
  have found : standardRegistry.target? [.list items, .closure ⟨0⟩] (.method "filter") =
      some Lists.filter :=
    Registry.target?_method holds_standardRegistry (mem_standardBuiltins_of_special .filter) rfl
  refine ⟨found, (goesAlong_call env ⟨0⟩ items before (.method "filter")).2.1 found, ?_⟩
  rw [Registry.callNamed_of_target found]
  rfl

end ScriptHost
