import ScriptHost.Proofs.Toml.Paths

/-! Every integer in a document is within the range of 64 bits, since the words that stand for
integers are, and whatever holds values was filled with values that were read. -/
namespace ScriptHost.Toml

/-- All integers in a value are within the range of 64 bits. -/
inductive Ranged : Toml → Prop where
  | string : Ranged (.string text)
  | integer (above : -Int.pow 2 63 ≤ number) (below : number < Int.pow 2 63) :
      Ranged (.integer number)
  | float : Ranged .float
  | boolean : Ranged (.boolean truth)
  | dateTime : Ranged .dateTime
  | array {items : List Toml} (all : ∀ item ∈ items, Ranged item) : Ranged (.array items)
  | table {origin : TableOrigin} {entries : Entries} (all : ∀ entry ∈ entries, Ranged entry.2) :
      Ranged (.table origin entries)
  | tables {earlier : List Toml} {last : Entries} (before : ∀ item ∈ earlier, Ranged item)
      (all : ∀ entry ∈ last, Ranged entry.2) : Ranged (.tables earlier last)

/-- All integers under the keys of a table are within that range. -/
def Entries.Ranged (entries : Entries) : Prop := ∀ entry ∈ entries, entry.2.Ranged

/-- Whatever a reading of a value gives is ranged. -/
def ReadsRanged (read : List Char → Option (Toml × List Char)) : Prop :=
  ∀ chars value rest, read chars = some (value, rest) → value.Ranged

/-! Words. -/

theorem ranged_of_ofInt? {number : Int} (read : ofInt? number = some value) : value.Ranged := by
  rw [ofInt?] at read
  split at read
  · rename_i inRange
    obtain rfl := Option.some.inj read
    exact .integer inRange.1 inRange.2
  · cases read

theorem ranged_of_ofBase? (read : ofBase? base chars = some value) : value.Ranged := by
  simp only [ofBase?, Option.bind_eq_bind, Option.bind_eq_some_iff] at read
  obtain ⟨digits, -, number, -, read⟩ := read
  exact ranged_of_ofInt? read

theorem ranged_of_ofFloat? (read : ofFloat? negative whole fraction exponent = some value) :
    value.Ranged := by
  simp only [ofFloat?, Option.bind_eq_bind, Option.bind_eq_some_iff] at read
  obtain ⟨digits, -, read⟩ := read
  split at read
  · obtain rfl := Option.some.inj read
    exact .float
  · cases read

theorem ranged_of_ofUnsigned? (read : ofUnsigned? negative chars = some value) :
    value.Ranged := by
  simp only [ofUnsigned?, Option.bind_eq_bind, Option.bind_eq_some_iff] at read
  obtain ⟨whole, -, read⟩ := read
  split at read
  · obtain ⟨size, -, read⟩ := Option.bind_eq_some_iff.mp read
    exact ranged_of_ofInt? read
  · obtain ⟨fraction, -, read⟩ := Option.bind_eq_some_iff.mp read
    split at read
    · exact ranged_of_ofFloat? read
    · cases read
    · obtain ⟨exponent, -, read⟩ := Option.bind_eq_some_iff.mp read
      exact ranged_of_ofFloat? read
  · obtain ⟨exponent, -, read⟩ := Option.bind_eq_some_iff.mp read
    exact ranged_of_ofFloat? read

theorem ranged_of_ofDecimal? (read : ofDecimal? negative chars = some value) :
    value.Ranged := by
  rw [ofDecimal?] at read
  split at read
  · obtain rfl := Option.some.inj read
    exact .float
  · exact ranged_of_ofUnsigned? read

theorem ranged_of_ofWord? (read : ofWord? word = some value) : value.Ranged := by
  unfold ofWord? at read
  split at read
  · obtain rfl := Option.some.inj read
    exact .boolean
  · split at read
    · obtain rfl := Option.some.inj read
      exact .boolean
    · split at read
      · obtain rfl := Option.some.inj read
        exact .dateTime
      · split at read
        · exact ranged_of_ofBase? read
        · exact ranged_of_ofBase? read
        · exact ranged_of_ofBase? read
        · exact ranged_of_ofDecimal? read
        · exact ranged_of_ofDecimal? read
        · exact ranged_of_ofDecimal? read

/-! Tables. -/

namespace Entries

variable {entries : Entries} {key : String} {value : Toml}

theorem Ranged.find? (ranged : entries.Ranged) (found : entries.find? key = some value) :
    value.Ranged := by
  induction entries with
  | nil => cases found
  | cons entry rest ih =>
    obtain ⟨first, others⟩ := List.forall_mem_cons.mp ranged
    rw [find?_cons] at found
    split at found
    · obtain rfl := Option.some.inj found
      exact first
    · exact ih others found

theorem Ranged.set (ranged : entries.Ranged) (key : String) (rangedValue : value.Ranged) :
    (set key value entries).Ranged := by
  induction entries with
  | nil => exact List.forall_mem_singleton.mpr rangedValue
  | cons entry rest ih =>
    obtain ⟨first, others⟩ := List.forall_mem_cons.mp ranged
    rw [Entries.set]
    split
    · exact List.forall_mem_cons.mpr ⟨rangedValue, others⟩
    · exact List.forall_mem_cons.mpr ⟨first, ih others⟩

theorem ranged_nil : Ranged [] := List.forall_mem_nil _

end Entries

namespace Table

/-- A change adds nothing to a ranged table that is not ranged. -/
def KeepsRanged (change : Table → Option Table) : Prop :=
  ∀ before after, change before = some after → before.entries.Ranged → after.entries.Ranged

theorem keepsRanged_change? {change : Table → Option Table} (keeps : KeepsRanged change)
    (made : TableOrigin) (path : List String) : KeepsRanged (change? made change path) := by
  induction path with
  | nil => exact fun before after changed => keeps before after (by rwa [change?] at changed)
  | cons key path ih =>
    intro before after changed ranged
    cases descends_of_change? changed with
    | fresh missing inner => exact ranged.set key (.table (ih _ _ inner Entries.ranged_nil))
    | table found inner =>
      cases ranged.find? found with
      | table all => exact ranged.set key (.table (ih _ _ inner all))
    | tables found inner =>
      cases ranged.find? found with
      | tables before all => exact ranged.set key (.tables before (ih _ _ inner all))

theorem keepsRanged_assign? (key : Key) {value : Toml} (rangedValue : value.Ranged) :
    KeepsRanged (·.assign? key value) := by
  refine keepsRanged_change? ?_ _ key.path
  intro before after changed ranged
  rw [sets_assignment key value before after changed]
  exact ranged.set key.last rangedValue

theorem keepsRanged_openHeader? (key : String) : KeepsRanged (·.openHeader? key) := by
  intro before after opened ranged
  cases opens_of_openHeader? opened with
  | fresh missing => exact ranged.set key (.table Entries.ranged_nil)
  | passage found =>
    cases ranged.find? found with
    | table all => exact ranged.set key (.table all)

theorem keepsRanged_addItem? (key : String) : KeepsRanged (·.addItem? key) := by
  intro before after added ranged
  cases addsItem_of_addItem? added with
  | fresh missing => exact ranged.set key (.tables (List.forall_mem_nil _) Entries.ranged_nil)
  | further found =>
    cases ranged.find? found with
    | tables before all =>
      refine ranged.set key (.tables ?_ Entries.ranged_nil)
      exact List.forall_mem_append.mpr ⟨before, List.forall_mem_singleton.mpr (.table all)⟩

end Table

/-! Values. -/

theorem readsRanged_readWord : ReadsRanged readWord := by
  intro chars value rest given
  simp only [readWord] at given
  split at given
  · split at given
    · cases given
      exact .dateTime
    · split at given
      · cases given
        exact .dateTime
      · cases given
  · obtain ⟨word, read, same⟩ := Option.map_eq_some_iff.mp given
    cases same
    exact ranged_of_ofWord? read

theorem readsRanged_readScalar : ReadsRanged readScalar := by
  intro chars value rest given
  unfold readScalar at given
  split at given
  · obtain ⟨_, -, same⟩ := Option.map_eq_some_iff.mp given
    cases same
    exact .string
  · obtain ⟨_, -, same⟩ := Option.map_eq_some_iff.mp given
    cases same
    exact .string
  · exact readsRanged_readWord _ _ _ given

variable {read : List Char → Option (Toml × List Char)}

theorem ranged_of_readItems (ranged : ReadsRanged read) {chars rest : List Char}
    {items : List Toml} (given : readItems read chars = some (items, rest)) :
    ∀ item ∈ items, item.Ranged := by
  fun_induction readItems read chars generalizing items rest with
  | case1 =>
    cases given
    exact List.forall_mem_nil _
  | case3 _ _ _ _ _ _ first =>
    cases given
    exact List.forall_mem_singleton.mpr (ranged _ _ _ first)
  | case4 _ _ _ _ _ _ _ first ih =>
    obtain ⟨⟨items, _⟩, more, same⟩ := Option.map_eq_some_iff.mp given
    cases same
    exact List.forall_mem_cons.mpr ⟨ranged _ _ _ first, ih more⟩
  | case2 | case5 | case6 => cases given

theorem ranged_of_readAssignment (ranged : ReadsRanged read)
    (given : readAssignment read chars = some ((key, value), rest)) : value.Ranged := by
  obtain ⟨⟨name, behind⟩, -, given⟩ := Option.bind_eq_some_iff.mp given
  dsimp only at given
  split at given
  · obtain ⟨⟨here, _⟩, read, same⟩ := Option.map_eq_some_iff.mp given
    cases same
    exact ranged _ _ _ read
  · cases given

theorem ranged_of_readPairs (ranged : ReadsRanged read) {here after : Table}
    {chars rest : List Char} (begun : here.entries.Ranged)
    (given : readPairs read here chars = some (after, rest)) : after.entries.Ranged := by
  fun_induction readPairs read here chars generalizing after rest with
  | case3 _ _ _ _ _ assigned _ added =>
    cases given
    exact Table.keepsRanged_assign? _ (ranged_of_readAssignment ranged assigned) _ _ added begun
  | case4 _ _ _ _ _ assigned _ added _ _ _ ih =>
    refine ih ?_ given
    exact Table.keepsRanged_assign? _ (ranged_of_readAssignment ranged assigned) _ _ added begun
  | case1 | case2 | case5 | case6 => cases given

theorem ranged_of_readBraces (ranged : ReadsRanged read) {after : Table} {chars rest : List Char}
    (given : readBraces read chars = some (after, rest)) : after.entries.Ranged := by
  rw [readBraces] at given
  split at given
  · cases given
    exact Entries.ranged_nil
  · exact ranged_of_readPairs ranged Entries.ranged_nil given

theorem readsRanged_readValue (room : Nat) : ReadsRanged (readValue room) := by
  induction room with
  | zero =>
    intro chars value rest given
    rw [readValue] at given
    · exact readsRanged_readScalar _ _ _ given
    all_goals simp
  | succ room ih =>
    intro chars value rest given
    unfold readValue at given
    split at given
    · rename_i less _ deeper
      obtain rfl : room = less := Nat.succ.inj deeper
      obtain ⟨⟨items, _⟩, read, same⟩ := Option.map_eq_some_iff.mp given
      cases same
      exact .array (ranged_of_readItems ih read)
    · rename_i less _ deeper
      obtain rfl : room = less := Nat.succ.inj deeper
      obtain ⟨⟨inner, _⟩, read, same⟩ := Option.map_eq_some_iff.mp given
      cases same
      exact .table (ranged_of_readBraces ih read)
    · exact readsRanged_readScalar _ _ _ given

/-! Documents. -/

/-- A statement assigns nothing that is not ranged. -/
def Statement.Ranged : Statement → Prop
  | .header _ | .item _ => True
  | .assignment _ value => value.Ranged

theorem ranged_of_readStatement (given : readStatement chars = some (statement, rest)) :
    statement.Ranged := by
  unfold readStatement at given
  split at given
  · obtain ⟨⟨key, behind⟩, -, given⟩ := Option.bind_eq_some_iff.mp given
    dsimp only at given
    split at given
    · cases given
      trivial
    · cases given
  · obtain ⟨⟨key, behind⟩, -, given⟩ := Option.bind_eq_some_iff.mp given
    dsimp only at given
    split at given
    · cases given
      trivial
    · cases given
  · obtain ⟨⟨⟨key, value⟩, _⟩, read, same⟩ := Option.map_eq_some_iff.mp given
    cases same
    exact ranged_of_readAssignment (readsRanged_readValue maxDepth) read

theorem ranged_of_readStatements {chars : List Char} {statements : List Statement}
    (given : readStatements chars = some statements) :
    ∀ statement ∈ statements, statement.Ranged := by
  fun_induction readStatements chars generalizing statements with
  | case1 =>
    cases given
    exact List.forall_mem_nil _
  | case2 _ _ _ _ _ ih => exact ih given
  | case6 _ _ _ _ _ first _ _ _ ih =>
    obtain ⟨more, others, rfl⟩ := Option.map_eq_some_iff.mp given
    exact List.forall_mem_cons.mpr ⟨ranged_of_readStatement first, ih others⟩
  | case3 | case4 | case5 | case7 => cases given

theorem Draft.ranged_of_add? {draft after : Draft} {statement : Statement}
    (ranged : statement.Ranged) (begun : draft.root.entries.Ranged)
    (added : draft.add? statement = some after) : after.root.entries.Ranged := by
  cases statement with
  | header key =>
    obtain ⟨root, changed, rfl⟩ := Option.map_eq_some_iff.mp added
    exact Table.keepsRanged_change? (Table.keepsRanged_openHeader? _) _ _ _ _ changed begun
  | item key =>
    obtain ⟨root, changed, rfl⟩ := Option.map_eq_some_iff.mp added
    exact Table.keepsRanged_change? (Table.keepsRanged_addItem? _) _ _ _ _ changed begun
  | assignment key value =>
    obtain ⟨root, changed, rfl⟩ := Option.map_eq_some_iff.mp added
    exact Table.keepsRanged_change? (Table.keepsRanged_assign? _ ranged) _ _ _ _ changed begun

theorem Draft.ranged_of_foldlM {draft after : Draft} {statements : List Statement}
    (ranged : ∀ statement ∈ statements, statement.Ranged) (begun : draft.root.entries.Ranged)
    (added : statements.foldlM Draft.add? draft = some after) : after.root.entries.Ranged := by
  induction statements generalizing draft with
  | nil =>
    obtain rfl := Option.some.inj added
    exact begun
  | cons statement statements ih =>
    obtain ⟨first, others⟩ := List.forall_mem_cons.mp ranged
    obtain ⟨next, once, rest⟩ := Option.bind_eq_some_iff.mp added
    exact ih others (ranged_of_add? first begun once) rest

/-- Whatever integer a document holds is within the range of 64 bits. -/
theorem ranged_of_ofText? {text : String} {entries : Entries} (read : ofText? text = some entries) :
    entries.Ranged := by
  obtain ⟨statements, given, built⟩ := Option.bind_eq_some_iff.mp read
  obtain ⟨final, added, rfl⟩ := Option.map_eq_some_iff.mp built
  exact Draft.ranged_of_foldlM (ranged_of_readStatements given) Entries.ranged_nil added

end ScriptHost.Toml
