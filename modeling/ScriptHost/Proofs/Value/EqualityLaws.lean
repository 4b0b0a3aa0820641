import ScriptHost.Proofs.Map.Entries
import ScriptHost.Proofs.Value.References

/-! Equality of values is symmetric and transitive, and only a NaN that is part of a value keeps it
from being equal to itself. In a heap without cycles it looks as deep as there is anything to see. -/
namespace ScriptHost

namespace Value

variable {dicts dicts' : DictRef → DictRef → Bool} {closures closures' : ClosureRef → ClosureRef → Bool}

/-- A NaN is the value itself or stands in it without a reference in between. -/
inductive ShowsNaN : Value → Prop where
  | float (nan : number.isNaN = true) : ShowsNaN (.float number)
  | part (inside : part ∈ value.parts) (shows : ShowsNaN part) : ShowsNaN value

theorem equalVia_symm (dictsSymm : ∀ ref other, dicts ref other = true → dicts other ref = true)
    (closuresSymm : ∀ ref other, closures ref other = true → closures other ref = true)
    (first second : Value) (same : equalVia dicts closures first second = true) :
    equalVia dicts closures second first = true := by
  induction first using parts_induction generalizing second with
  | whole first ih =>
    obtain ⟨heads, inside⟩ := equalVia_iff.mp same
    refine equalVia_iff.mpr ⟨heads.symm dictsSymm closuresSymm, .flip ?_⟩
    exact forall₂_of_mem (fun part member other => ih part member other) inside

theorem equalVia_trans
    (dictsTrans : ∀ ref other more, dicts ref other = true → dicts other more = true →
      dicts ref more = true)
    (closuresTrans : ∀ ref other more, closures ref other = true → closures other more = true →
      closures ref more = true)
    (first second third : Value) (same : equalVia dicts closures first second = true)
    (same' : equalVia dicts closures second third = true) :
    equalVia dicts closures first third = true := by
  induction first using parts_induction generalizing second third with
  | whole first ih =>
    obtain ⟨heads, inside⟩ := equalVia_iff.mp same
    obtain ⟨heads', inside'⟩ := equalVia_iff.mp same'
    refine equalVia_iff.mpr ⟨heads.trans dictsTrans closuresTrans heads', ?_⟩
    exact forall₂_trans_of_mem ih inside inside'

theorem equalVia_self_iff (dictsRefl : ∀ ref, dicts ref ref = true)
    (closuresRefl : ∀ ref, closures ref ref = true) (value : Value) :
    equalVia dicts closures value value = true ↔ ¬value.ShowsNaN := by
  induction value using parts_induction with
  | whole value ih =>
    rw [equalVia_iff, List.forall₂_same]
    constructor
    · rintro ⟨heads, inside⟩ shows
      cases shows with
      | float nan =>
        cases heads with
        | float same =>
          rw [Number.Binary64.equal_self_iff.mp same] at nan
          cases nan
      | part member shows => exact (ih _ member).mp (inside _ member) shows
    · intro hidden
      refine ⟨?_, fun part member => ?_⟩
      · cases value with
        | float number =>
          refine .float (Number.Binary64.equal_self_iff.mpr (Bool.eq_false_iff.mpr fun nan => ?_))
          exact hidden (.float nan)
        | dict ref => exact .dict (dictsRefl ref)
        | closure ref => exact .closure (closuresRefl ref)
        | _ => constructor
      · exact (ih part member).mpr fun shows => hidden (.part member shows)

/-- Only what a value refers to is compared by reference. -/
theorem equalVia_congr {first : Value}
    (dictsSame : ∀ ref, first.RefersTo (.dict ref) → ∀ other, dicts ref other = dicts' ref other)
    (closuresSame : ∀ ref, first.RefersTo (.closure ref) → ∀ other,
      closures ref other = closures' ref other) (second : Value) :
    equalVia dicts closures first second = true ↔ equalVia dicts' closures' first second = true := by
  induction first using parts_induction generalizing second with
  | whole first ih =>
    rw [equalVia_iff, equalVia_iff]
    refine and_congr ⟨fun heads => ?_, fun heads => ?_⟩ (forall₂_congr_of_mem fun part member => ?_)
    · cases heads with
      | float same => exact .float same
      | dict same => exact .dict (dictsSame _ .dict _ ▸ same)
      | closure same => exact .closure (closuresSame _ .closure _ ▸ same)
      | _ => constructor
    · cases heads with
      | float same => exact .float same
      | dict same => exact .dict ((dictsSame _ .dict _).symm ▸ same)
      | closure same => exact .closure ((closuresSame _ .closure _).symm ▸ same)
      | _ => constructor
    · exact ih part member (fun ref refers => dictsSame ref (.part member refers))
        fun ref refers => closuresSame ref (.part member refers)

end Value

namespace Heap

variable {heap : Heap} {depth : Nat}

/-- Equality of values that look at most `depth` references deep. -/
def equalWithin (heap : Heap) (depth : Nat) (first second : Value) : Bool :=
  Value.equalVia (heap.sameDict depth) (heap.sameClosure depth) first second

theorem equalEntries_iff {equal : Value → Value → Bool} {entries others : List (String × Value)} :
    equalEntries equal entries others = true ↔
      List.Forall₂ (fun entry other => entry.1 = other.1 ∧ equal entry.2 other.2 = true)
        entries others := by
  induction entries generalizing others with
  | nil => cases others <;> simp [equalEntries]
  | cons entry rest ih => cases others <;> simp [equalEntries, ih, and_assoc]

theorem sameDict_zero_iff {first second : DictRef} :
    heap.sameDict 0 first second = true ↔ first = second := by
  rw [sameDict, beq_iff_eq]

theorem sameClosure_zero_iff {first second : ClosureRef} :
    heap.sameClosure 0 first second = true ↔ first = second := by
  rw [sameClosure, beq_iff_eq]

theorem sameDict_succ_iff {first second : DictRef} :
    heap.sameDict (depth + 1) first second = true ↔ first = second ∨
      List.Forall₂ (fun entry entry' => entry.1 = entry'.1 ∧
          heap.equalWithin depth entry.2 entry'.2 = true)
        (heap.contents first).entries (heap.contents second).entries := by
  rw [sameDict, Bool.or_eq_true, beq_iff_eq, equalEntries_iff]
  rfl

theorem sameClosure_succ_iff {first second : ClosureRef} :
    heap.sameClosure (depth + 1) first second = true ↔ first = second ∨
      (heap.closure first).function = (heap.closure second).function ∧
        List.Forall₂ (fun capture capture' => heap.equalWithin depth capture capture' = true)
          (heap.closure first).captures (heap.closure second).captures := by
  rw [sameClosure, Bool.or_eq_true, beq_iff_eq, Bool.and_eq_true, beq_iff_eq, Value.equalAllVia_iff]
  rfl

theorem sameDict_self (heap : Heap) (depth : Nat) (ref : DictRef) :
    heap.sameDict depth ref ref = true := by
  cases depth with
  | zero => exact sameDict_zero_iff.mpr rfl
  | succ depth => exact sameDict_succ_iff.mpr (.inl rfl)

theorem sameClosure_self (heap : Heap) (depth : Nat) (ref : ClosureRef) :
    heap.sameClosure depth ref ref = true := by
  cases depth with
  | zero => exact sameClosure_zero_iff.mpr rfl
  | succ depth => exact sameClosure_succ_iff.mpr (.inl rfl)

/-! Each law holds to every depth: the references of one depth are compared by the values of the
depth below. -/

theorem symm_within (heap : Heap) (depth : Nat) :
    (∀ ref other, heap.sameDict depth ref other = true → heap.sameDict depth other ref = true) ∧
      ∀ ref other, heap.sameClosure depth ref other = true →
        heap.sameClosure depth other ref = true := by
  induction depth with
  | zero =>
    refine ⟨fun ref other same => ?_, fun ref other same => ?_⟩
    · exact sameDict_zero_iff.mpr (sameDict_zero_iff.mp same).symm
    · exact sameClosure_zero_iff.mpr (sameClosure_zero_iff.mp same).symm
  | succ depth ih =>
    have values := Value.equalVia_symm ih.1 ih.2
    refine ⟨fun ref other same => ?_, fun ref other same => ?_⟩
    · rcases sameDict_succ_iff.mp same with one | alike
      · exact sameDict_succ_iff.mpr (.inl one.symm)
      · refine sameDict_succ_iff.mpr (.inr (.flip (alike.imp fun _ _ entry => ?_)))
        exact ⟨entry.1.symm, values _ _ entry.2⟩
    · rcases sameClosure_succ_iff.mp same with one | ⟨function, alike⟩
      · exact sameClosure_succ_iff.mpr (.inl one.symm)
      · refine sameClosure_succ_iff.mpr (.inr ⟨function.symm, .flip (alike.imp ?_)⟩)
        exact fun _ _ => values _ _

theorem trans_within (heap : Heap) (depth : Nat) :
    (∀ ref other more, heap.sameDict depth ref other = true →
        heap.sameDict depth other more = true → heap.sameDict depth ref more = true) ∧
      ∀ ref other more, heap.sameClosure depth ref other = true →
        heap.sameClosure depth other more = true → heap.sameClosure depth ref more = true := by
  induction depth with
  | zero =>
    refine ⟨fun ref other more same same' => ?_, fun ref other more same same' => ?_⟩
    · exact sameDict_zero_iff.mpr ((sameDict_zero_iff.mp same).trans (sameDict_zero_iff.mp same'))
    · exact sameClosure_zero_iff.mpr
        ((sameClosure_zero_iff.mp same).trans (sameClosure_zero_iff.mp same'))
  | succ depth ih =>
    have values := Value.equalVia_trans ih.1 ih.2
    refine ⟨fun ref other more same same' => ?_, fun ref other more same same' => ?_⟩
    -- A step from a reference to itself leaves the other step as it is.
    · rcases sameDict_succ_iff.mp same with rfl | alike
      · exact same'
      · rcases sameDict_succ_iff.mp same' with rfl | alike'
        · exact same
        · refine sameDict_succ_iff.mpr (.inr (forall₂_trans_of_mem ?_ alike alike'))
          exact fun _ _ _ _ entry entry' =>
            ⟨entry.1.trans entry'.1, values _ _ _ entry.2 entry'.2⟩
    · rcases sameClosure_succ_iff.mp same with rfl | ⟨function, alike⟩
      · exact same'
      · rcases sameClosure_succ_iff.mp same' with rfl | ⟨function', alike'⟩
        · exact same
        · refine sameClosure_succ_iff.mpr (.inr ⟨function.trans function', ?_⟩)
          exact forall₂_trans_of_mem (fun _ _ _ _ => values _ _ _) alike alike'

/-- From a depth on that the rank of a node does not reach, nothing is left to see behind it. -/
theorem Acyclic.same_of_rank_lt (acyclic : heap.Acyclic) (depth : Nat) :
    (∀ ref, heap.rank (.dict ref) < depth → ∀ other,
        heap.sameDict (depth + 1) ref other = heap.sameDict depth ref other) ∧
      ∀ ref, heap.rank (.closure ref) < depth → ∀ other,
        heap.sameClosure (depth + 1) ref other = heap.sameClosure depth ref other := by
  induction depth with
  | zero => exact ⟨fun _ low => absurd low (Nat.not_lt_zero _), fun _ low =>
      absurd low (Nat.not_lt_zero _)⟩
  | succ depth ih =>
    -- What a node holds refers to nodes of lower rank only.
    have values (node) (low : heap.rank node < depth + 1) (value) (member : value ∈ heap.heldBy node)
        (other) : heap.equalWithin (depth + 1) value other = true ↔
          heap.equalWithin depth value other = true := by
      refine Value.equalVia_congr (fun ref refers => ?_) (fun ref refers => ?_) other
      · exact ih.1 ref (Nat.lt_of_lt_of_le (acyclic.rank_lt ⟨value, member, refers⟩)
          (Nat.le_of_lt_succ low))
      · exact ih.2 ref (Nat.lt_of_lt_of_le (acyclic.rank_lt ⟨value, member, refers⟩)
          (Nat.le_of_lt_succ low))
    refine ⟨fun ref low other => Bool.eq_iff_iff.mpr ?_, fun ref low other => Bool.eq_iff_iff.mpr ?_⟩
    · rw [sameDict_succ_iff, sameDict_succ_iff]
      refine or_congr_right (forall₂_congr_of_mem fun entry member other => and_congr_right fun _ => ?_)
      exact values (.dict ref) low entry.2 (List.mem_map_of_mem member) other.2
    · rw [sameClosure_succ_iff, sameClosure_succ_iff]
      refine or_congr_right (and_congr_right fun _ => forall₂_congr_of_mem ?_)
      exact fun capture member => values (.closure ref) low capture member

/-- Dicts are equal if they are one, or hold equal items under the same keys. -/
theorem Acyclic.equal_dict_iff (acyclic : heap.Acyclic) {first : DictRef}
    (has : heap.Has (.dict first)) (second : DictRef) :
    heap.equal (.dict first) (.dict second) = true ↔ first = second ∨
      ∀ key, Option.Rel (fun item item' => heap.equal item item' = true)
        ((heap.contents first).find? key) ((heap.contents second).find? key) := by
  have enough := (acyclic.same_of_rank_lt heap.size).1 first (acyclic.rank_lt_size has) second
  have items := @SortedMap.forall₂_entries_iff _ _ _ (heap.contents first) _ _ _
    (fun item item' => heap.equal item item' = true) (heap.contents second)
  rw [equal, Value.equalVia, ← enough, sameDict_succ_iff, ← items]
  rfl

/-- Functions are equal if they are one, or have one number and equal captures. -/
theorem Acyclic.equal_closure_iff (acyclic : heap.Acyclic) {first : ClosureRef}
    (has : heap.Has (.closure first)) (second : ClosureRef) :
    heap.equal (.closure first) (.closure second) = true ↔ first = second ∨
      (heap.closure first).function = (heap.closure second).function ∧
        List.Forall₂ (fun capture capture' => heap.equal capture capture' = true)
          (heap.closure first).captures (heap.closure second).captures := by
  have enough := (acyclic.same_of_rank_lt heap.size).2 first (acyclic.rank_lt_size has) second
  rw [equal, Value.equalVia, ← enough, sameClosure_succ_iff]
  rfl

/-- What one can rely on when values of a heap are compared. A copy of a value is that value: its dicts
and functions are references. -/
structure LawfulEquality (heap : Heap) : Prop where
  symm : ∀ first second, heap.equal first second = true → heap.equal second first = true
  trans : ∀ first second third, heap.equal first second = true → heap.equal second third = true →
    heap.equal first third = true
  /-- A value differs from its own copy for a NaN in sight and for nothing else. -/
  self_iff : ∀ value, heap.equal value value = true ↔ ¬value.ShowsNaN
  dict_self : ∀ ref, heap.equal (.dict ref) (.dict ref) = true
  closure_self : ∀ ref, heap.equal (.closure ref) (.closure ref) = true
  dict_iff : ∀ first second, heap.Has (.dict first) → heap.Has (.dict second) → first ≠ second →
    (heap.equal (.dict first) (.dict second) = true ↔
      ∀ key, Option.Rel (fun item item' => heap.equal item item' = true)
        ((heap.contents first).find? key) ((heap.contents second).find? key))
  closure_iff : ∀ first second, heap.Has (.closure first) → heap.Has (.closure second) →
    first ≠ second →
    (heap.equal (.closure first) (.closure second) = true ↔
      (heap.closure first).function = (heap.closure second).function ∧
        List.Forall₂ (fun capture capture' => heap.equal capture capture' = true)
          (heap.closure first).captures (heap.closure second).captures)
  kinds : ∀ first second, first.kind ≠ second.kind → heap.equal first second = false

/-- In a heap without cycles equality of values is symmetric and transitive, fails to be reflexive for a
NaN in sight only, and compares dicts that are not one by their contents. -/
theorem lawfulEquality_of_acyclic (acyclic : heap.Acyclic) : heap.LawfulEquality where
  symm := Value.equalVia_symm (heap.symm_within heap.size).1 (heap.symm_within heap.size).2
  trans := Value.equalVia_trans (heap.trans_within heap.size).1 (heap.trans_within heap.size).2
  self_iff := Value.equalVia_self_iff (heap.sameDict_self heap.size)
    (heap.sameClosure_self heap.size)
  dict_self ref := by
    rw [equal, Value.equalVia]
    exact heap.sameDict_self heap.size ref
  closure_self ref := by
    rw [equal, Value.equalVia]
    exact heap.sameClosure_self heap.size ref
  dict_iff first second has _ different := by
    rw [acyclic.equal_dict_iff has second]
    exact or_iff_right different
  closure_iff first second has _ different := by
    rw [acyclic.equal_closure_iff has second]
    exact or_iff_right different
  kinds first second different := by
    refine Bool.eq_false_iff.mpr fun same => ?_
    exact different (Value.equalVia_iff.mp same).1.kind_eq

/-- Two dicts with a NaN in them, and two functions that capture the first of them. -/
theorem lawfulEquality_of_acyclic_nan :
    let nan : Value := .float ⟨0x7ff8000000000000⟩
    let heap : Heap :=
      { dicts := #[SortedMap.empty.insert "x" nan, SortedMap.empty.insert "x" nan]
        closures := #[⟨7, [.dict ⟨0⟩]⟩, ⟨7, [.dict ⟨0⟩]⟩] }
    heap.Acyclic ∧ heap.LawfulEquality := by
  intro nan heap
  have leads (node next) (step : heap.Leads node next) :
      (∃ ref, node = .closure ref) ∧ next = .dict ⟨0⟩ := by
    obtain ⟨value, member, refers⟩ := step
    rcases node with ⟨⟨index⟩⟩ | ⟨⟨index⟩⟩
    · obtain rfl : value = .float ⟨0x7ff8000000000000⟩ := by
        match index with
        | 0 | 1 => exact List.mem_singleton.mp member
        | index + 2 => cases member
      rcases refers with _ | _ | ⟨inside, _⟩
      cases inside
    · obtain rfl : value = .dict ⟨0⟩ := by
        match index with
        | 0 | 1 => exact List.mem_singleton.mp member
        | index + 2 => cases member
      refine ⟨⟨_, rfl⟩, ?_⟩
      rcases refers with _ | _ | ⟨inside, _⟩
      · rfl
      · cases inside
  have acyclic : heap.Acyclic := by
    refine ⟨fun node next step => ?_, fun node path => ?_⟩
    · obtain ⟨_, rfl⟩ := leads node next step
      exact Nat.zero_lt_two
    · -- Whatever is behind a step is a dict, and no step starts from one.
      obtain ⟨middle, _, last⟩ := Relation.TransGen.tail'_iff.mp path
      obtain ⟨first, step, _⟩ := Relation.TransGen.head'_iff.mp path
      obtain ⟨_, isDict⟩ := leads _ _ last
      obtain ⟨⟨ref, isClosure⟩, _⟩ := leads _ _ step
      rw [isDict] at isClosure
      cases isClosure
  exact ⟨acyclic, lawfulEquality_of_acyclic acyclic⟩

end Heap

end ScriptHost
