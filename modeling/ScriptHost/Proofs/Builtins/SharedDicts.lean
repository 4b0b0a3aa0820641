import Mathlib.Data.List.Basic
import ScriptHost.Proofs.Builtins.ArgumentCheck
import ScriptHost.Proofs.Builtins.Standard
import ScriptHost.Proofs.Text.Order
import ScriptHost.Proofs.Value.DictWrites

/-! Each dict is one finite map, however many copies of it there are: its contents are what the
calls that set and remove made of them, in the order of the calls, and every copy answers from
them. -/
namespace ScriptHost

open Builtins

/-- What holds after an action, whether it fails or gives a result. -/
def Leaves (action : Action α) (before : World) (holds : World → Prop) : Prop :=
  Ends action before (fun _ => holds) fun _ => holds

section Functions

/-- The changes that each function of the program makes when it is run. -/
abbrev Reports := Closure → List Value → World → List DictWrite

/-- Reports are true of an environment if its functions leave each dict as these changes do. -/
def Environment.Reported (env : Environment) (reports : Reports) : Prop :=
  ∀ invoker, env.invoker = some invoker → ∀ closure args (world : World),
    world.heap.Tracks (reports closure args world) (invoker closure args world).2.heap

/-- The changes that a function makes to dicts when it is run on one item after the other, until a
run fails or gives a value with which it cannot go on. -/
def invokedWrites (env : Environment) (reports : Reports) (goesOn : Value → Bool)
    (ref : ClosureRef) : List Value → World → List DictWrite
  | [], _ => []
  | item :: rest, world =>
    match env.invoker with
    | none => []
    | some invoker =>
      let closure := world.heap.closure ref
      reports closure [item] world ++
        match invoker closure [item] world with
        | (.ok result, after) =>
          if goesOn result then invokedWrites env reports goesOn ref rest after else []
        | (.error _, _) => []

/-- Whether a filter can go on with a result. -/
def isTruth : Value → Bool
  | .bool _ => true
  | _ => false

variable {env : Environment} {reports : Reports} {before after : World} {invoker : Invoker}

/-- A function is run on the first item, and what is behind goes on from there or stops. -/
theorem leaves_invoked {next : Value → Action β} (reported : env.Reported reports)
    (goes : ∀ result after, goesOn result = true → Leaves (next result) after fun later =>
      after.heap.Tracks (invokedWrites env reports goesOn ref rest after) later.heap)
    (stops : ∀ result after, goesOn result = false → Leaves (next result) after fun later =>
      later = after) :
    Leaves (env.invoke ref [item] >>= next) before fun after =>
      before.heap.Tracks (invokedWrites env reports goesOn ref (item :: rest) before)
        after.heap := by
  rw [Leaves, Environment.invoke, invokedWrites]
  cases given : env.invoker with
  | none => exact .refl _
  | some invoker =>
    have tracks := reported invoker given (before.heap.closure ref) [item] before
    simp only [ends_bind, ends_get, ends_set]
    rcases ran : invoker (before.heap.closure ref) [item] before with ⟨_ | result, after⟩
    · rw [ran] at tracks
      dsimp only
      rw [List.append_nil]
      exact tracks
    · rw [ran] at tracks
      dsimp only
      cases further : goesOn result with
      | true =>
        exact (goes result after further).imp (fun _ _ => tracks.trans) fun _ _ => tracks.trans
      | false =>
        rw [if_neg Bool.false_ne_true, List.append_nil]
        refine (stops result after further).imp ?_ ?_ <;>
        · rintro _ later rfl
          exact tracks

theorem leaves_mapItems (reported : env.Reported reports) (ref : ClosureRef) (items : List Value)
    (before : World) :
    Leaves (Lists.mapItems env ref items) before fun after =>
      before.heap.Tracks (invokedWrites env reports (fun _ => true) ref items before)
        after.heap := by
  induction items generalizing before with
  | nil => exact .refl _
  | cons item rest ih =>
    refine leaves_invoked reported (fun result after _ => ?_)
      fun _ _ stopped => Bool.noConfusion stopped
    rw [Leaves, ends_bind]
    exact ih after

theorem leaves_filterItems (reported : env.Reported reports) (ref : ClosureRef)
    (items : List Value) (before : World) :
    Leaves (Lists.filterItems env ref items) before fun after =>
      before.heap.Tracks (invokedWrites env reports isTruth ref items before) after.heap := by
  induction items generalizing before with
  | nil => exact .refl _
  | cons item rest ih =>
    refine leaves_invoked reported (fun result after isBool => ?_) fun result after notBool => ?_
    · cases result with
      | bool truth =>
        cases truth with
        | true =>
          rw [Leaves, ends_bind]
          exact ih after
        | false => exact ih after
      | _ => cases isBool
    · cases result with
      | bool truth => cases notBool
      | _ => rfl

/-- What a filter keeps are items of the list, in their order. -/
theorem ends_filterItems (env : Environment) (ref : ClosureRef) (items : List Value)
    (before : World) :
    Ends (Lists.filterItems env ref items) before (fun _ _ => True)
      fun kept _ => kept.Sublist items := by
  induction items generalizing before with
  | nil => exact .slnil
  | cons item rest ih =>
    rw [Lists.filterItems, ends_bind]
    refine .intro (fun _ _ => trivial) fun result after => ?_
    split
    · rw [ends_bind]
      exact (ih after).imp (fun _ _ _ => trivial) fun kept _ sub => sub.cons_cons item
    · exact (ih after).imp (fun _ _ _ => trivial) fun kept _ sub => sub.cons item
    · trivial

end Functions

section Calls

variable {env : Environment} {reports : Reports} {before : World} {builtin : Builtin}

/-- The changes to dicts that a call asks for: its own, or those of the functions that it runs. -/
def writesOf (env : Environment) (reports : Reports) (before : World) (builtin : Builtin) :
    List Value → List DictWrite
  | [.dict ref, .string key, value] =>
    if builtin.signature.id = Dicts.set.signature.id then [.set ref key value] else []
  | [.dict ref, .string key] =>
    if builtin.signature.id = Dicts.remove.signature.id then [.remove ref key] else []
  | [.list items, .closure ref] =>
    if builtin.signature.id = Lists.map.signature.id then
      invokedWrites env reports (fun _ => true) ref items before
    else if builtin.signature.id = Lists.filter.signature.id then
      invokedWrites env reports isTruth ref items before
    else []
  | _ => []

theorem mem_standardBuiltins_of_special (special : Special builtin) :
    builtin ∈ standardBuiltins := by
  cases special <;> simp [standardBuiltins, Http.all, Dicts.all, Lists.all]

theorem writesOf_of_not_special (member : builtin ∈ standardBuiltins)
    (notSpecial : ¬ Special builtin) (args : List Value) :
    writesOf env reports before builtin args = [] := by
  have different : ∀ other, Special other → builtin.signature.id ≠ other.signature.id := by
    intro other special same
    have single := holds_standardRegistry.single (mem_standardBuiltins_of_special special)
    exact notSpecial (single builtin member same ▸ special)
  unfold writesOf
  split
  · exact if_neg (different _ .set)
  · exact if_neg (different _ .remove)
  · rw [if_neg (different _ .map), if_neg (different _ .filter)]
  · rfl

theorem eq_dict_of_accepts (accepts : (TypeDesc.dict type).accepts value = true) :
    ∃ ref, value = .dict ref := by
  cases value <;> first | exact ⟨_, rfl⟩ | cases accepts

theorem eq_string_of_accepts (accepts : TypeDesc.string.accepts value = true) :
    ∃ text, value = .string text := by
  cases value <;> first | exact ⟨_, rfl⟩ | cases accepts

theorem eq_list_of_accepts (accepts : (TypeDesc.list type).accepts value = true) :
    ∃ items, value = .list items := by
  cases value <;> first | exact ⟨_, rfl⟩ | cases accepts

theorem eq_closure_of_accepts (accepts : (TypeDesc.function params result).accepts value = true) :
    ∃ ref, value = .closure ref := by
  cases value <;> first | exact ⟨_, rfl⟩ | cases accepts

theorem shape_of_set (checked : Dicts.set.signature.checkArgs args = .ok ()) :
    ∃ ref key value, args = [.dict ref, .string key, value] := by
  obtain ⟨length, fits⟩ := Signature.fits_of_checkArgs checked
  obtain ⟨receiver, key, value, rfl⟩ := List.length_eq_three.mp length
  obtain ⟨ref, rfl⟩ := eq_dict_of_accepts (fits (_, receiver) (.head _))
  obtain ⟨key, rfl⟩ := eq_string_of_accepts (fits (_, key) (.tail _ (.head _)))
  exact ⟨ref, key, value, rfl⟩

theorem shape_of_remove (checked : Dicts.remove.signature.checkArgs args = .ok ()) :
    ∃ ref key, args = [.dict ref, .string key] := by
  obtain ⟨length, fits⟩ := Signature.fits_of_checkArgs checked
  obtain ⟨receiver, key, rfl⟩ := List.length_eq_two.mp length
  obtain ⟨ref, rfl⟩ := eq_dict_of_accepts (fits (_, receiver) (.head _))
  obtain ⟨key, rfl⟩ := eq_string_of_accepts (fits (_, key) (.tail _ (.head _)))
  exact ⟨ref, key, rfl⟩

/-- The methods of lists that call a function take the list and the function. -/
theorem shape_of_calling {signature : Signature} (arity : signature.arity = 2)
    (types : signature.paramTypes = [.list item, .function params result])
    (checked : signature.checkArgs args = .ok ()) :
    ∃ items ref, args = [.list items, .closure ref] := by
  obtain ⟨length, fits⟩ := Signature.fits_of_checkArgs checked
  obtain ⟨receiver, function, rfl⟩ := List.length_eq_two.mp (length.trans arity)
  rw [types] at fits
  obtain ⟨items, rfl⟩ := eq_list_of_accepts (fits (_, receiver) (.head _))
  obtain ⟨ref, rfl⟩ := eq_closure_of_accepts (fits (_, function) (.tail _ (.head _)))
  exact ⟨items, ref, rfl⟩

/-- A call whose arguments do not pass the check asks for nothing. -/
theorem writesOf_of_unfit (special : Special builtin)
    (unfit : builtin.signature.checkArgs args ≠ .ok ()) :
    writesOf env reports before builtin args = [] := by
  unfold writesOf
  split
  · refine if_neg fun same => ?_
    cases special <;> first | exact absurd rfl unfit | exact absurd same (by decide)
  · refine if_neg fun same => ?_
    cases special <;> first | exact absurd rfl unfit | exact absurd same (by decide)
  · cases special <;> first | exact absurd rfl unfit | rfl
  · rfl

theorem tracks_run_of_special (special : Special builtin) (reported : env.Reported reports)
    (checked : builtin.signature.checkArgs args = .ok ()) :
    Leaves (builtin.run env args) before fun after =>
      before.heap.Tracks (writesOf env reports before builtin args) after.heap := by
  cases special with
  | respond =>
    have nothing : writesOf env reports before Http.respond args = [] := by
      unfold writesOf
      split <;> rfl
    rw [nothing]
    refine (Http.ends_respond env args before).imp ?_ ?_
    · rintro error after (rfl | unanswered)
      · exact .refl _
      · exact unanswered.heap ▸ .refl _
    · rintro (value | call) after holds
      · exact holds.1.tracks
      · exact holds.1.heap ▸ .refl _
  | set =>
    obtain ⟨ref, key, value, rfl⟩ := shape_of_set checked
    exact before.heap.tracks_write (.set ref key value)
  | remove =>
    obtain ⟨ref, key, rfl⟩ := shape_of_remove checked
    exact before.heap.tracks_write (.remove ref key)
  | map =>
    obtain ⟨items, ref, rfl⟩ := shape_of_calling rfl rfl checked
    change Leaves (do return Progress.finished (.list (← Lists.mapItems env ref items))) before _
    rw [Leaves, ends_bind]
    exact leaves_mapItems reported ref items before
  | filter =>
    obtain ⟨items, ref, rfl⟩ := shape_of_calling rfl rfl checked
    change Leaves (do return Progress.finished (.list (← Lists.filterItems env ref items))) before _
    rw [Leaves, ends_bind]
    exact leaves_filterItems reported ref items before

theorem Builtin.Regular.leaves (regular : builtin.Regular) (env : Environment) (args : List Value)
    (before : World) :
    Leaves (builtin.run env args) before fun after => before.heap.Extends after.heap := by
  refine (regular env args before).imp ?_ ?_
  · rintro error after (rfl | ⟨_, kept⟩)
    · exact .refl _
    · exact kept.heap ▸ .refl _
  · rintro (value | call) after holds
    · exact holds.1
    · exact holds.1.heap ▸ .refl _

/-- Whatever comes of a call, it leaves each dict as the changes that it asks for do. -/
theorem tracks_call (member : builtin ∈ standardBuiltins) (reported : env.Reported reports)
    (args : List Value) (before : World) :
    Leaves (builtin.call env args) before fun after =>
      before.heap.Tracks (writesOf env reports before builtin args) after.heap := by
  by_cases special : Special builtin
  · rw [Leaves, Builtin.call, ends_bind]
    cases checked : builtin.signature.checkArgs args with
    | ok _ => exact tracks_run_of_special special reported checked
    | error error =>
      rw [writesOf_of_unfit special (by simp [checked])]
      exact .refl _
  · rw [writesOf_of_not_special member special]
    have leaves := (regular_of_standard member special).leaves env args before
    exact ends_check (fun _ => .refl _) fun _ _ =>
      leaves.imp (fun _ _ more => more.tracks) fun _ _ more => more.tracks

end Calls

section Runs

/-- The changes to dicts that a call through one of its names asks for. -/
def callWrites (env : Environment) (reports : Reports) (before : World) (args : List Value)
    (callee : Callee) : List DictWrite :=
  match standardRegistry.target? args callee with
  | some builtin => writesOf env reports before builtin args
  | none => []

/-- A step of a run and the changes to dicts that it asks for. Waiting calls go on at any time; what
happens besides calls may make dicts but changes none. -/
inductive DictStep : World → List DictWrite → World → Prop where
  | call (reported : env.Reported reports)
      (ran : (standardRegistry.callNamed env args callee).runIn before = (outcome, after)) :
      DictStep before (callWrites env reports before args callee) after
  | advance (call : Suspended) (ran : (call.advance env).runIn before = (outcome, after)) :
      DictStep before [] after
  | other (more : before.heap.Extends after.heap) : DictStep before [] after

/-- A run, and the changes to dicts that were asked for in turn. -/
inductive DictRun : World → List DictWrite → World → Prop where
  | start : DictRun world [] world
  | step (run : DictRun before writes between) (step : DictStep between more after) :
      DictRun before (writes ++ more) after

theorem Leaves.of_ran {action : Action α} {holds : World → Prop}
    (leaves : Leaves action before holds) (ran : action.runIn before = (outcome, after)) :
    holds after := by
  cases outcome with
  | ok result => exact leaves.of_ok ran
  | error error => exact leaves.of_error ran

theorem tracks_callNamed {env : Environment} {reports : Reports} (reported : env.Reported reports)
    (args : List Value) (callee : Callee) (before : World) :
    Leaves (standardRegistry.callNamed env args callee) before fun after =>
      before.heap.Tracks (callWrites env reports before args callee) after.heap := by
  rw [callWrites]
  cases found : standardRegistry.target? args callee with
  | none =>
    obtain ⟨error, thrown, _⟩ := Registry.callNamed_of_no_target env found
    rw [thrown]
    exact .refl _
  | some builtin =>
    rw [Registry.callNamed_of_target found]
    exact tracks_call (Registry.mem_of_target holds_standardRegistry found) reported args before

theorem leaves_advance (call : Suspended) (env : Environment) (before : World) :
    Leaves (call.advance env) before fun after => before.heap.Extends after.heap := by
  refine (call.advances env before).imp ?_ ?_
  · exact fun _ _ failed => failed.1.heap ▸ .refl _
  · rintro (value | later) after holds
    · exact holds.1
    · exact holds.1.heap ▸ .refl _

theorem DictStep.tracks (step : DictStep before writes after) :
    before.heap.Tracks writes after.heap := by
  cases step with
  | call reported ran => exact (tracks_callNamed reported _ _ _).of_ran ran
  | advance call ran => exact ((leaves_advance call _ _).of_ran ran).tracks
  | other more => exact more.tracks

theorem DictRun.tracks (run : DictRun before writes after) :
    before.heap.Tracks writes after.heap := by
  induction run with
  | start => exact .refl _
  | step _ step ih => exact ih.trans step.tracks

end Runs

section Answers

/-- A standard builtin, by whichever of its names it is called, ends at once with a value and in a
certain world. -/
structure Gets (builtin : Builtin) (args : List Value) (before : World) (value : Value)
    (after : World) : Prop where
  standard : builtin ∈ standardBuiltins
  ran : ∀ env callee, standardRegistry.target? args callee = some builtin →
    (standardRegistry.callNamed env args callee).runIn before = (.ok (.finished value), after)

theorem gets_of_run {builtin : Builtin} (standard : builtin ∈ standardBuiltins)
    (ran : ∀ env, (builtin.call env args).runIn before = (.ok (.finished value), after)) :
    Gets builtin args before value after where
  standard := standard
  ran env callee found := by
    rw [Registry.callNamed_of_target found]
    exact ran env

/-- One entry of one dict is changed, and nothing else. -/
structure ChangesEntry (before : Heap) (ref : DictRef) (key : String) (held : Option Value)
    (after : Heap) : Prop where
  here : (after.contents ref).find? key = held
  otherKeys : ∀ other, other ≠ key →
    (after.contents ref).find? other = (before.contents ref).find? other
  otherDicts : ∀ other, other ≠ ref → after.contents other = before.contents other

/-- A dict is a finite map: its contents are that map, and each call on it answers from that map. -/
structure Mirrors (world : World) (ref : DictRef) (map : DictMap) : Prop where
  contents : world.heap.contents ref = map
  get : ∀ key, Gets Dicts.get [.dict ref, .string key] world (.ofOption (map.find? key)) world
  has : ∀ key, Gets Dicts.has [.dict ref, .string key] world (.bool (map.contains key)) world
  length : Gets Dicts.length [.dict ref] world (.ofNat map.size) world
  keys : Gets Dicts.keys [.dict ref] world (.list (map.keys.map .string)) world
  ascending : map.keys.Pairwise fun first second => Text.toBytes first < Text.toBytes second
  set : ∀ key value, ∃ heap, ChangesEntry world.heap ref key (some value) heap ∧
    Gets Dicts.set [.dict ref, .string key, value] world .unit { world with heap }
  remove : ∀ key, ∃ heap, ChangesEntry world.heap ref key none heap ∧
    Gets Dicts.remove [.dict ref, .string key] world (.ofOption (map.find? key)) { world with heap }

theorem changesEntry_set {heap : Heap} (live : ref.index < heap.dicts.size) (key : String)
    (value : Value) : ChangesEntry heap ref key (some value) (heap.write (.set ref key value)) where
  here := by
    rw [Heap.write, DictWrite.ref, Heap.contents_setContents heap _ live]
    exact SortedMap.find?_insert_self ..
  otherKeys other different := by
    rw [Heap.write, DictWrite.ref, Heap.contents_setContents heap _ live, DictWrite.change,
      SortedMap.find?_insert, if_neg different]
  otherDicts other different := Heap.contents_setContents_of_ne heap _ different

theorem changesEntry_remove {heap : Heap} (live : ref.index < heap.dicts.size) (key : String) :
    ChangesEntry heap ref key none (heap.write (.remove ref key)) where
  here := by
    rw [Heap.write, DictWrite.ref, Heap.contents_setContents heap _ live]
    exact SortedMap.find?_erase_self ..
  otherKeys other different := by
    rw [Heap.write, DictWrite.ref, Heap.contents_setContents heap _ live, DictWrite.change]
    exact SortedMap.find?_erase_of_ne _ fun same =>
      different (Std.LawfulEqOrd.compare_eq_iff_eq.mp same)
  otherDicts other different := Heap.contents_setContents_of_ne heap _ different

theorem ascending_keys (map : DictMap) :
    map.keys.Pairwise fun first second => Text.toBytes first < Text.toBytes second := by
  rw [SortedMap.keys, List.pairwise_map]
  exact map.ascending.imp Text.toBytes_lt_of_compare

/-- A dict that is there answers from its contents. -/
theorem mirrors_contents (world : World) (live : ref.index < world.heap.dicts.size) :
    Mirrors world ref (world.heap.contents ref) where
  contents := rfl
  get _ := gets_of_run (by simp [standardBuiltins, Dicts.all]) fun _ => rfl
  has _ := gets_of_run (by simp [standardBuiltins, Dicts.all]) fun _ => rfl
  length := gets_of_run (by simp [standardBuiltins, Dicts.all]) fun _ => rfl
  keys := gets_of_run (by simp [standardBuiltins, Dicts.all]) fun _ => rfl
  ascending := ascending_keys _
  set _ _ := ⟨_, changesEntry_set live _ _,
    gets_of_run (mem_standardBuiltins_of_special .set) fun _ => rfl⟩
  remove _ := ⟨_, changesEntry_remove live _,
    gets_of_run (mem_standardBuiltins_of_special .remove) fun _ => rfl⟩

/-- What comes out of lists, dicts and optionals are the values that went in. A dict in a value is
its reference, so it is the same dict. -/
structure SharesItems (world : World) : Prop where
  append : ∀ items value,
    Gets Lists.append [.list items, value] world (.list (items ++ [value])) world
  reverse : ∀ items, Gets Lists.reverse [.list items] world (.list items.reverse) world
  get : ∀ items index, Gets Lists.get [.list items, .int index] world
    (if index.toInt < 0 then .absent else .ofOption items[index.toInt.toNat]?) world
  filter : ∀ env items ref callee progress after,
    standardRegistry.target? [.list items, .closure ref] callee = some Lists.filter →
    (standardRegistry.callNamed env [.list items, .closure ref] callee).runIn world =
      (.ok progress, after) →
    ∃ kept, kept.Sublist items ∧ progress = .finished (.list kept)
  lookUp : ∀ ref key, Gets Dicts.get [.dict ref, .string key] world
    (.ofOption ((world.heap.contents ref).find? key)) world
  unwrapOr : ∀ content default, Gets Optionals.unwrapOr [.ofOption content, default] world
    (content.getD default) world

theorem sharesItems (world : World) : SharesItems world where
  append items value := gets_of_run (by simp [standardBuiltins, Lists.all]) fun _ => rfl
  reverse items := gets_of_run (by simp [standardBuiltins, Lists.all]) fun _ => rfl
  get items index := gets_of_run (by simp [standardBuiltins, Lists.all]) fun _ => rfl
  filter env items ref callee progress after found ran := by
    rw [Registry.callNamed_of_target found] at ran
    have ends : Ends (Lists.filter.call env [.list items, .closure ref]) world (fun _ _ => True)
        fun progress _ => ∃ kept, kept.Sublist items ∧ progress = .finished (.list kept) := by
      change Ends (do return Progress.finished (.list (← Lists.filterItems env ref items))) _ _ _
      rw [ends_bind]
      exact (ends_filterItems env ref items world).imp (fun _ _ _ => trivial)
        fun kept _ sub => ⟨kept, sub, rfl⟩
    exact ends.of_ok ran
  lookUp ref key := gets_of_run (by simp [standardBuiltins, Dicts.all]) fun _ => rfl
  unwrapOr content default := gets_of_run (by simp [standardBuiltins, Optionals.all]) fun _ => by
    cases content <;> rfl

end Answers

/-- At each point of a run every dict that was there in the beginning is the finite map that the
changes made to it so far make of its contents, whichever copies they were made through. -/
theorem mirrors_of_run (run : DictRun before writes after) :
    (∀ ref, ref.index < before.heap.dicts.size →
      Mirrors after ref (replay ref writes (before.heap.contents ref))) ∧ SharesItems after := by
  refine ⟨fun ref live => ?_, sharesItems after⟩
  rw [← run.tracks.contents ref live]
  exact mirrors_contents after (Nat.lt_of_lt_of_le live run.tracks.size)

/-- A call sets an entry, and a function that a list is mapped over removes another. -/
theorem mirrors_of_run_set_map :
    let set : DictWrite := .set ⟨0⟩ "new" .unit
    let remove : DictWrite := .remove ⟨0⟩ "old"
    let heap : Heap := { dicts := #[SortedMap.empty.insert "old" .unit] }
    let after : World := { heap := (heap.write set).write remove }
    DictRun { heap } [set, remove] after ∧
      Mirrors after ⟨0⟩
        (((SortedMap.empty.insert "old" .unit).insert "new" .unit).erase "old") := by
  intro set remove heap after
  let env : Environment :=
    { invoker := some fun _ _ world => (.ok .unit, { world with heap := world.heap.write remove }) }
  let reports : Reports := fun _ _ _ => [remove]
  have reported : env.Reported reports := by
    rintro invoker given closure args world
    cases given
    exact world.heap.tracks_write remove
  have first : DictStep { heap } [set] { heap := heap.write set } := by
    have found : standardRegistry.target? [.dict ⟨0⟩, .string "new", .unit] (.method "set") =
        some Dicts.set :=
      Registry.target?_method holds_standardRegistry (mem_standardBuiltins_of_special .set) rfl
    have writes : callWrites env reports { heap } [.dict ⟨0⟩, .string "new", .unit]
        (.method "set") = [set] := by
      rw [callWrites, found]
      rfl
    have ran : (standardRegistry.callNamed env [.dict ⟨0⟩, .string "new", .unit]
        (.method "set")).runIn { heap } = (.ok (.finished .unit), { heap := heap.write set }) := by
      rw [Registry.callNamed_of_target found]
      rfl
    rw [← writes]
    exact .call reported ran
  have second : DictStep { heap := heap.write set } [remove] after := by
    have found : standardRegistry.target? [.list [.dict ⟨0⟩], .closure ⟨0⟩] (.method "map") =
        some Lists.map :=
      Registry.target?_method holds_standardRegistry (mem_standardBuiltins_of_special .map) rfl
    have writes : callWrites env reports { heap := heap.write set }
        [.list [.dict ⟨0⟩], .closure ⟨0⟩] (.method "map") = [remove] := by
      rw [callWrites, found]
      rfl
    have ran : (standardRegistry.callNamed env [.list [.dict ⟨0⟩], .closure ⟨0⟩]
        (.method "map")).runIn { heap := heap.write set } =
        (.ok (.finished (.list [.unit])), after) := by
      rw [Registry.callNamed_of_target found]
      rfl
    rw [← writes]
    exact .call reported ran
  have run : DictRun { heap } [set, remove] after := .step (.step .start first) second
  exact ⟨run, (mirrors_of_run run).1 ⟨0⟩ (by decide)⟩

end ScriptHost
