import Mathlib.Data.List.Basic
import ScriptHost.Toml.Document

/-! What a document says about one path. Statements about paths apart from it leave what stands there
as it is, so the one assignment to the path decides, wherever it is written. -/
namespace ScriptHost.Toml

namespace Entries

variable {entries : Entries} {key other : String} {value : Toml}

@[simp] theorem find?_nil (key : String) : find? [] key = none := rfl

theorem find?_cons (entry : String × Toml) (rest : Entries) (key : String) :
    find? (entry :: rest) key = if key = entry.1 then some entry.2 else find? rest key := by
  obtain ⟨name, value⟩ := entry
  rw [find?, List.lookup_cons]
  by_cases same : key = name
  · rw [if_pos same, beq_iff_eq.mpr same]
  · rw [if_neg same, beq_false_of_ne same]
    rfl

theorem find?_set (entries : Entries) (key other : String) (value : Toml) :
    find? (set key value entries) other =
      if other = key then some value else find? entries other := by
  induction entries with
  | nil => rw [set, find?_cons]
  | cons entry rest ih =>
    rw [set]
    by_cases same : entry.1 = key
    · subst same
      rw [if_pos (beq_self_eq_true entry.1), find?_cons, find?_cons]
      split_ifs <;> rfl
    · rw [if_neg (by simpa using same), find?_cons, ih, find?_cons]
      split_ifs with here asked
      · exact absurd (here.symm.trans asked) same
      all_goals rfl

@[simp] theorem find?_set_self (entries : Entries) (key : String) (value : Toml) :
    find? (set key value entries) key = some value := by
  rw [find?_set, if_pos rfl]

theorem find?_set_of_ne (entries : Entries) (value : Toml) (different : other ≠ key) :
    find? (set key value entries) other = find? entries other := by
  rw [find?_set, if_neg different]

/-- What stands at a path that leads through tables, if anything. There is no answer if something
other than a table is on the way. -/
def look? (entries : Entries) : List String → Option (Option Toml)
  | [] => none
  | [key] => some (find? entries key)
  | key :: next :: path =>
    match find? entries key with
    | none => some none
    | some (.table _ inner) => look? inner (next :: path)
    | some _ => none

@[simp] theorem look?_singleton (entries : Entries) (key : String) :
    look? entries [key] = some (find? entries key) := rfl

theorem look?_cons (entries : Entries) (key : String) {path : List String} (more : path ≠ []) :
    look? entries (key :: path) =
      match find? entries key with
      | none => some none
      | some (.table _ inner) => look? inner path
      | some _ => none := by
  obtain ⟨next, path, rfl⟩ := List.exists_cons_of_ne_nil more
  rw [look?]

theorem look?_nil {path : List String} (some : path ≠ []) : look? [] path = .some none := by
  obtain ⟨key, path, rfl⟩ := List.exists_cons_of_ne_nil some
  cases path with
  | nil => rfl
  | cons next path => rfl

/-- What stands at a path hangs on its first key alone. -/
theorem look?_congr {before after : Entries} (same : find? after key = find? before key)
    (path : List String) : look? after (key :: path) = look? before (key :: path) := by
  cases path with
  | nil => rw [look?_singleton, look?_singleton, same]
  | cons next path => rw [look?, look?, same]

end Entries

/-- The paths part from each other before either ends. -/
inductive Apart : List String → List String → Prop where
  | now (different : key ≠ other) : Apart (key :: path) (other :: path')
  | later (apart : Apart path path') : Apart (key :: path) (key :: path')

/-- A path parts from one that goes on where it does so early, or from what is behind. -/
theorem Apart.of_append {path behind other : List String} (apart : Apart (path ++ behind) other) :
    Apart path other ∨ ∃ tail, other = path ++ tail ∧ Apart behind tail := by
  induction path generalizing other with
  | nil => exact .inr ⟨other, rfl, apart⟩
  | cons key path ih =>
    cases apart with
    | now different => exact .inl (.now different)
    | later apart =>
      rcases ih apart with early | ⟨tail, rfl, late⟩
      · exact .inl early.later
      · exact .inr ⟨tail, rfl, late⟩

instance Apart.decidable : (path other : List String) → Decidable (Apart path other)
  | [], _ => .isFalse nofun
  | _ :: _, [] => .isFalse nofun
  | key :: path, name :: other =>
    if same : key = name then
      match Apart.decidable path other with
      | .isTrue apart => .isTrue (same ▸ .later apart)
      | .isFalse joint => .isFalse fun
        | .now different => different same
        | .later apart => joint apart
    else .isTrue (.now same)

theorem Apart.ne_nil {path other : List String} (apart : Apart path other) : other ≠ [] := by
  cases apart <;> exact List.cons_ne_nil _ _

namespace Table

/-- How a change below a key comes about. -/
inductive Descends (made : TableOrigin) (change : Table → Option Table) (path : List String)
    (key : String) (here : Table) : Table → Prop where
  | fresh {inner : Table} (missing : Entries.find? here.entries key = none)
      (changed : change? made change path ⟨made, []⟩ = some inner) :
      Descends made change path key here (here.set key inner.toToml)
  | table {origin : TableOrigin} {entries : Entries} {inner : Table}
      (found : Entries.find? here.entries key = some (.table origin entries))
      (changed : change? made change path ⟨origin, entries⟩ = some inner) :
      Descends made change path key here (here.set key inner.toToml)
  | tables {inner : Table}
      (found : Entries.find? here.entries key = some (.tables earlier last))
      (changed : change? made change path ⟨.header, last⟩ = some inner) :
      Descends made change path key here (here.set key (.tables earlier inner.entries))

variable {made : TableOrigin} {change : Table → Option Table} {path other tail : List String}
  {key : String} {here before after : Table}

theorem descends_of_change? (changed : change? made change (key :: path) here = some after) :
    Descends made change path key here after := by
  rw [change?] at changed
  split at changed
  · obtain ⟨inner, done, rfl⟩ := Option.map_eq_some_iff.mp changed
    exact .fresh ‹_› done
  · obtain ⟨inner, done, rfl⟩ := Option.map_eq_some_iff.mp changed
    exact .tables ‹_› done
  · split at changed
    · obtain ⟨inner, done, rfl⟩ := Option.map_eq_some_iff.mp changed
      exact .table ‹_› done
    · cases changed
  · cases changed

/-- A change makes one thing of another at a path. -/
def Turns (change : Table → Option Table) (path : List String)
    (turn : Option Toml → Option Toml) : Prop :=
  ∀ before after held, change before = some after →
    Entries.look? before.entries path = some held →
      Entries.look? after.entries path = some (turn held)

theorem Descends.find?_of_ne {name : String} (descends : Descends made change path key here after)
    (different : name ≠ key) :
    Entries.find? after.entries name = Entries.find? here.entries name := by
  cases descends <;> exact Entries.find?_set_of_ne _ _ different

/-- A change below a key turns what stands behind the key as it does there. -/
theorem Descends.look?_cons {turn : Option Toml → Option Toml}
    (turns : Turns (change? made change path) tail turn) (more : tail ≠ [])
    (descends : Descends made change path key before after)
    (seen : Entries.look? before.entries (key :: tail) = some held) :
    Entries.look? after.entries (key :: tail) = some (turn held) := by
  rw [Entries.look?_cons _ _ more] at seen ⊢
  cases descends with
  | fresh missing changed =>
    rw [missing] at seen
    obtain rfl := Option.some.inj seen
    rw [set, Entries.find?_set_self]
    exact turns _ _ _ changed (Entries.look?_nil more)
  | table found changed =>
    rw [found] at seen
    rw [set, Entries.find?_set_self]
    exact turns _ _ _ changed seen
  | tables found changed =>
    rw [found] at seen
    cases seen

/-- A change at the end of a path does nothing at a path apart from it. -/
theorem turns_change?_of_apart (apart : Apart path other) :
    Turns (change? made change path) other id := by
  induction apart with
  | now different =>
    intro before after held changed seen
    have descends := descends_of_change? changed
    rwa [Entries.look?_congr (descends.find?_of_ne (Ne.symm different))]
  | later apart ih =>
    intro before after held changed seen
    exact (descends_of_change? changed).look?_cons ih apart.ne_nil seen

/-- A change at the end of a path does behind it what it does to the table there. -/
theorem turns_change?_append {turn : Option Toml → Option Toml} (turns : Turns change tail turn)
    (more : tail ≠ []) (path : List String) :
    Turns (change? made change path) (path ++ tail) turn := by
  induction path with
  | nil =>
    intro before after held changed seen
    exact turns before after held (by rwa [change?] at changed) seen
  | cons key path ih =>
    intro before after held changed seen
    exact (descends_of_change? changed).look?_cons ih (List.append_ne_nil_of_right_ne_nil _ more) seen

/-- What a change does not turn apart from one path, it does not turn behind a longer one. -/
theorem turns_change?_of_apart_append {behind : List String}
    (spares : ∀ tail, Apart behind tail → Turns change tail id)
    (apart : Apart (path ++ behind) other) : Turns (change? made change path) other id := by
  rcases apart.of_append with early | ⟨tail, rfl, late⟩
  · exact turns_change?_of_apart early
  · exact turns_change?_append (spares tail late) late.ne_nil path

/-- The change gives a value to one key. -/
def Sets (change : Table → Option Table) (key : String) : Prop :=
  ∀ before after, change before = some after → ∃ value, after = before.set key value

theorem Sets.turns_of_apart (sets : Sets change key) (apart : Apart [key] other) :
    Turns change other id := by
  intro before after held changed seen
  obtain ⟨value, rfl⟩ := sets before after changed
  cases apart with
  | now different =>
    rwa [set, Entries.look?_congr (Entries.find?_set_of_ne _ _ (Ne.symm different))]
  | later apart => cases apart

end Table

/-- All parts of a key. -/
def Key.parts (key : Key) : List String := key.path ++ [key.last]

namespace Table

variable {other tail : List String} {key : String} {value : Toml} {before after : Table}

/-- An assignment does one thing at the end of its path: it gives the value to the last part. -/
theorem sets_assignment (key : Key) (value : Toml) (before after : Table)
    (assigned : (if (before.origin == .dotted) == key.path.isEmpty then none
      else if (Entries.find? before.entries key.last).isSome then none
      else some (before.set key.last value)) = some after) :
    after = before.set key.last value := by
  split at assigned
  · cases assigned
  · split at assigned
    · cases assigned
    · exact (Option.some.inj assigned).symm

/-- A header names a table that is not there yet, or one that is only on the way to others. -/
inductive Opens (key : String) (here : Table) : Table → Prop where
  | fresh (missing : Entries.find? here.entries key = none) :
      Opens key here (here.set key (.table .header []))
  | passage {entries : Entries}
      (found : Entries.find? here.entries key = some (.table .passage entries)) :
      Opens key here (here.set key (.table .header entries))

theorem opens_of_openHeader? (opened : before.openHeader? key = some after) :
    Opens key before after := by
  rw [openHeader?] at opened
  split at opened
  · exact Option.some.inj opened ▸ .fresh ‹_›
  · exact Option.some.inj opened ▸ .passage ‹_›
  · cases opened

/-- A repeated header names the first table under it, or one more. -/
inductive AddsItem (key : String) (here : Table) : Table → Prop where
  | fresh (missing : Entries.find? here.entries key = none) :
      AddsItem key here (here.set key (.tables [] []))
  | further {earlier : List Toml} {last : Entries}
      (found : Entries.find? here.entries key = some (.tables earlier last)) :
      AddsItem key here (here.set key (.tables (earlier ++ [.table .header last]) []))

theorem addsItem_of_addItem? (added : before.addItem? key = some after) :
    AddsItem key before after := by
  rw [addItem?] at added
  split at added
  · exact Option.some.inj added ▸ .fresh ‹_›
  · exact Option.some.inj added ▸ .further ‹_›
  · cases added

theorem turns_assign?_of_apart {key : Key} (apart : Apart key.parts other) :
    Turns (·.assign? key value) other id := by
  refine turns_change?_of_apart_append (fun tail late => Sets.turns_of_apart ?_ late) apart
  exact fun before after changed => ⟨value, sets_assignment key value before after changed⟩

theorem turns_assign? (key : Key) (value : Toml) :
    Turns (·.assign? key value) key.parts fun _ => some value := by
  refine turns_change?_append ?_ (List.cons_ne_nil key.last []) key.path
  intro before after held changed seen
  obtain rfl := sets_assignment key value before after changed
  rw [Entries.look?_singleton, set, Entries.find?_set_self]

theorem sets_openHeader? (key : String) : Sets (·.openHeader? key) key := by
  intro before after opened
  cases opens_of_openHeader? opened <;> exact ⟨_, rfl⟩

theorem sets_addItem? (key : String) : Sets (·.addItem? key) key := by
  intro before after added
  cases addsItem_of_addItem? added <;> exact ⟨_, rfl⟩

/-- A header adds nothing to the table that it names. -/
theorem turns_openHeader?_cons (key : String) (more : tail ≠ []) :
    Turns (·.openHeader? key) (key :: tail) id := by
  intro before after held opened seen
  rw [Entries.look?_cons _ _ more] at seen ⊢
  cases opens_of_openHeader? opened with
  | fresh missing =>
    rw [missing] at seen
    rw [set, Entries.find?_set_self]
    exact (Entries.look?_nil more).trans seen
  | passage found =>
    rw [found] at seen
    rw [set, Entries.find?_set_self]
    exact seen

end Table

namespace Statement

/-- Where the assignments behind a statement go. -/
def below (path : List String) : Statement → List String
  | .header key | .item key => key.parts
  | .assignment _ _ => path

/-- A statement, read where assignments go to one path, says nothing about another. -/
def Spares (path other : List String) : Statement → Prop
  | .header key => Apart key.parts other ∨ key.parts <+: other ∧ key.parts ≠ other
  | .item key => Apart key.parts other
  | .assignment key _ => Apart (path ++ key.parts) other

instance (path other : List String) : DecidablePred (Spares path other)
  | .header key => inferInstanceAs
    (Decidable (Apart key.parts other ∨ key.parts <+: other ∧ key.parts ≠ other))
  | .item key => inferInstanceAs (Decidable (Apart key.parts other))
  | .assignment key _ => inferInstanceAs (Decidable (Apart (path ++ key.parts) other))

end Statement

/-- What statements give to a path: nothing, or the value of the one assignment to it. -/
inductive Gives (other : List String) : List String → List Statement → Option Toml → Prop where
  | nothing : Gives other path [] none
  | spared (spares : statement.Spares path other)
      (rest : Gives other (statement.below path) statements held) :
      Gives other path (statement :: statements) held
  | assigned (here : path ++ key.parts = other) (rest : Gives other path statements none) :
      Gives other path (.assignment key value :: statements) (some value)

/-- What statements give to a path, if it is clear: no statement changes what stands there otherwise
than by the one assignment. -/
def given? (other : List String) : (path : List String) → List Statement → Option (Option Toml)
  | _, [] => some none
  | path, statement :: statements =>
    if statement.Spares path other then given? other (statement.below path) statements
    else
      match statement with
      | .assignment key value =>
        match given? other path statements with
        | some none => if path ++ key.parts = other then some (some value) else none
        | _ => none
      | _ => none

theorem gives_of_given? {other path : List String} {statements : List Statement}
    {held : Option Toml} (given : given? other path statements = some held) :
    Gives other path statements held := by
  induction statements generalizing path held with
  | nil =>
    obtain rfl := Option.some.inj given
    exact .nothing
  | cons statement statements ih =>
    unfold given? at given
    split at given
    · exact .spared ‹_› (ih given)
    · split at given
      · split at given
        · split at given
          · obtain rfl := Option.some.inj given
            exact .assigned ‹_› (ih ‹_›)
          · cases given
        · cases given
      · cases given

namespace Draft

variable {draft after : Draft} {statement : Statement} {other : List String} {held : Option Toml}

theorem path_of_add? (added : draft.add? statement = some after) :
    after.path = statement.below draft.path := by
  cases statement <;> obtain ⟨root, -, rfl⟩ := Option.map_eq_some_iff.mp added <;> rfl

theorem look?_of_spares (added : draft.add? statement = some after)
    (spares : statement.Spares draft.path other)
    (seen : Entries.look? draft.root.entries other = some held) :
    Entries.look? after.root.entries other = some held := by
  cases statement with
  | header key =>
    obtain ⟨root, changed, rfl⟩ := Option.map_eq_some_iff.mp added
    rcases spares with apart | ⟨⟨tail, rfl⟩, longer⟩
    · exact Table.turns_change?_of_apart_append
        (fun _ late => (Table.sets_openHeader? key.last).turns_of_apart late) apart
        _ _ _ changed seen
    · have more : tail ≠ [] := fun nothing => longer (by rw [nothing, List.append_nil])
      rw [Key.parts, List.append_assoc] at seen ⊢
      exact Table.turns_change?_append (Table.turns_openHeader?_cons key.last more)
        (List.cons_ne_nil _ _) key.path _ _ _ changed seen
  | item key =>
    obtain ⟨root, changed, rfl⟩ := Option.map_eq_some_iff.mp added
    exact Table.turns_change?_of_apart_append
      (fun _ late => (Table.sets_addItem? key.last).turns_of_apart late) spares _ _ _ changed seen
  | assignment key value =>
    obtain ⟨root, changed, rfl⟩ := Option.map_eq_some_iff.mp added
    exact Table.turns_change?_of_apart_append
      (fun _ late => Table.turns_assign?_of_apart late) spares _ _ _ changed seen

theorem look?_of_assignment {key : Key} {value : Toml}
    (added : draft.add? (.assignment key value) = some after)
    (seen : Entries.look? draft.root.entries (draft.path ++ key.parts) = some held) :
    Entries.look? after.root.entries (draft.path ++ key.parts) = some (some value) := by
  obtain ⟨root, changed, rfl⟩ := Option.map_eq_some_iff.mp added
  exact Table.turns_change?_append (Table.turns_assign? key value)
    (List.append_ne_nil_of_right_ne_nil _ (List.cons_ne_nil _ _)) draft.path _ _ _ changed seen

/-- The statements still to come decide what stands at a path, or leave it as it is. -/
theorem look?_of_gives {statements : List Statement} {final : Draft} {before : Option Toml}
    (gives : Gives other draft.path statements held)
    (added : statements.foldlM add? draft = some final)
    (seen : Entries.look? draft.root.entries other = some before) :
    Entries.look? final.root.entries other = some (held.or before) := by
  induction statements generalizing draft before held with
  | nil =>
    cases gives
    obtain rfl := Option.some.inj added
    exact seen
  | cons statement statements ih =>
    obtain ⟨next, first, rest⟩ := Option.bind_eq_some_iff.mp added
    have path := path_of_add? first
    cases gives with
    | spared spares more => exact ih (path ▸ more) rest (look?_of_spares first spares seen)
    | assigned here more =>
      subst here
      have given := ih (by rw [path]; exact more) rest (look?_of_assignment first seen)
      exact given

end Draft

/-- At each path the table of a document holds what its statements give to the path, and nothing but
tables is on the way. -/
theorem look?_ofStatements? {statements : List Statement} {entries : Entries} {path : List String}
    {held : Option Toml} (gives : Gives path [] statements held) (some : path ≠ [])
    (read : ofStatements? statements = .some entries) :
    Entries.look? entries path = .some held := by
  obtain ⟨final, added, rfl⟩ := Option.map_eq_some_iff.mp read
  have given := Draft.look?_of_gives gives added (Entries.look?_nil some)
  rwa [Option.or_none] at given

end ScriptHost.Toml
