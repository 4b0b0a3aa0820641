import Mathlib.Data.List.Forall2
import ScriptHost.Value.Equality

/-! A value is a head and the values right inside of it. Equal values are those whose heads match and
whose parts are equal one by one, so a law of equality is a law of heads and an induction over
parts. -/
namespace ScriptHost

/-- Related lists stay related where a relation implies another for what the first of them holds. -/
theorem forall₂_of_mem {related related' : α → β → Prop} {items : List α} {others : List β}
    (implied : ∀ item ∈ items, ∀ other, related item other → related' item other)
    (all : List.Forall₂ related items others) : List.Forall₂ related' items others := by
  induction all with
  | nil => exact .nil
  | cons here _ ih =>
    refine .cons (implied _ List.mem_cons_self _ here) (ih fun item member => ?_)
    exact implied item (List.mem_cons_of_mem _ member)

theorem forall₂_trans_of_mem {related : α → α → Prop} {items others more : List α}
    (trans : ∀ item ∈ items, ∀ other third, related item other → related other third →
      related item third)
    (first : List.Forall₂ related items others) (second : List.Forall₂ related others more) :
    List.Forall₂ related items more := by
  induction first generalizing more with
  | nil => exact second
  | cons here _ ih =>
    cases second with
    | cons there rest =>
      refine .cons (trans _ List.mem_cons_self _ _ here there) (ih (fun item member => ?_) rest)
      exact trans item (List.mem_cons_of_mem _ member)

theorem forall₂_congr_of_mem {related related' : α → β → Prop} {items : List α} {others : List β}
    (same : ∀ item ∈ items, ∀ other, related item other ↔ related' item other) :
    List.Forall₂ related items others ↔ List.Forall₂ related' items others :=
  ⟨forall₂_of_mem fun item member other => (same item member other).mp,
    forall₂_of_mem fun item member other => (same item member other).mpr⟩

namespace Number.Binary64

variable {first second third : Binary64}

theorem equal_symm (same : first.equal second = true) : second.equal first = true := by
  simp only [equal, Bool.and_eq_true, Bool.or_eq_true, beq_iff_eq] at same ⊢
  obtain ⟨⟨firstNumber, secondNumber⟩, bits | zeros⟩ := same
  · exact ⟨⟨secondNumber, firstNumber⟩, .inl bits.symm⟩
  · exact ⟨⟨secondNumber, firstNumber⟩, .inr zeros.symm⟩

theorem equal_trans (same : first.equal second = true) (same' : second.equal third = true) :
    first.equal third = true := by
  obtain ⟨first⟩ := first
  obtain ⟨second⟩ := second
  obtain ⟨third⟩ := third
  simp only [equal, Bool.and_eq_true, Bool.or_eq_true, beq_iff_eq] at same same' ⊢
  obtain ⟨⟨firstNumber, _⟩, step⟩ := same
  obtain ⟨⟨_, thirdNumber⟩, step'⟩ := same'
  refine ⟨⟨firstNumber, thirdNumber⟩, ?_⟩
  rcases step with rfl | ⟨zero, secondZero⟩
  · exact step'
  · rcases step' with rfl | ⟨_, zero'⟩
    · exact .inr ⟨zero, secondZero⟩
    · exact .inr ⟨zero, zero'⟩

/-- The one defect: a NaN is not equal to itself. -/
theorem equal_self_iff {number : Binary64} : number.equal number = true ↔ number.isNaN = false := by
  simp [equal]

end Number.Binary64

namespace Value

/-- The values right inside a value. What a dict or a function holds is not inside of it. -/
def parts : Value → List Value
  | .list items | .record _ items => items
  | .present content => [content]
  | _ => []

theorem sizeOf_lt_of_mem_parts {part value : Value} (member : part ∈ value.parts) :
    sizeOf part < sizeOf value := by
  cases value with
  | list items =>
    have smaller := List.sizeOf_lt_of_mem (show part ∈ items from member)
    simp only [list.sizeOf_spec]
    omega
  | record index fields =>
    have smaller := List.sizeOf_lt_of_mem (show part ∈ fields from member)
    simp only [record.sizeOf_spec]
    omega
  | present content =>
    obtain rfl := List.mem_singleton.mp member
    simp only [present.sizeOf_spec]
    omega
  | _ => cases member

/-- What holds of a value whenever it holds of its parts holds of every value. -/
@[elab_as_elim]
theorem parts_induction {holds : Value → Prop}
    (whole : ∀ value, (∀ part ∈ value.parts, holds part) → holds value) (value : Value) :
    holds value :=
  whole value fun part _ => parts_induction whole part
  termination_by value
  decreasing_by exact sizeOf_lt_of_mem_parts ‹_›

/-- Two values are of one kind and equal in whatever is no part of them. -/
inductive HeadsMatch (dicts : DictRef → DictRef → Prop)
    (closures : ClosureRef → ClosureRef → Prop) : Value → Value → Prop where
  | unit : HeadsMatch dicts closures .unit .unit
  | int : HeadsMatch dicts closures (.int number) (.int number)
  | float (same : first.equal second = true) :
      HeadsMatch dicts closures (.float first) (.float second)
  | string : HeadsMatch dicts closures (.string text) (.string text)
  | bool : HeadsMatch dicts closures (.bool truth) (.bool truth)
  | bytes : HeadsMatch dicts closures (.bytes data) (.bytes data)
  | list : HeadsMatch dicts closures (.list items) (.list items')
  | dict (same : dicts first second) : HeadsMatch dicts closures (.dict first) (.dict second)
  | absent : HeadsMatch dicts closures .absent .absent
  | present : HeadsMatch dicts closures (.present content) (.present content')
  | closure (same : closures first second) :
      HeadsMatch dicts closures (.closure first) (.closure second)
  | error : HeadsMatch dicts closures (.error message) (.error message)
  | record : HeadsMatch dicts closures (.record index fields) (.record index fields')

section

variable {dicts : DictRef → DictRef → Prop} {closures : ClosureRef → ClosureRef → Prop}
  {first second third : Value}

theorem HeadsMatch.kind_eq (heads : HeadsMatch dicts closures first second) :
    first.kind = second.kind := by
  cases heads <;> rfl

theorem HeadsMatch.symm (dictsSymm : ∀ ref other, dicts ref other → dicts other ref)
    (closuresSymm : ∀ ref other, closures ref other → closures other ref)
    (heads : HeadsMatch dicts closures first second) : HeadsMatch dicts closures second first := by
  cases heads with
  | float same => exact .float (Number.Binary64.equal_symm same)
  | dict same => exact .dict (dictsSymm _ _ same)
  | closure same => exact .closure (closuresSymm _ _ same)
  | _ => constructor

theorem HeadsMatch.trans
    (dictsTrans : ∀ ref other more, dicts ref other → dicts other more → dicts ref more)
    (closuresTrans : ∀ ref other more, closures ref other → closures other more →
      closures ref more)
    (heads : HeadsMatch dicts closures first second)
    (heads' : HeadsMatch dicts closures second third) : HeadsMatch dicts closures first third := by
  cases heads with
  | float same =>
    cases heads' with
    | float same' => exact .float (Number.Binary64.equal_trans same same')
  | dict same =>
    cases heads' with
    | dict same' => exact .dict (dictsTrans _ _ _ same same')
  | closure same =>
    cases heads' with
    | closure same' => exact .closure (closuresTrans _ _ _ same same')
  | _ =>
    cases heads'
    constructor

end

section

variable {dicts : DictRef → DictRef → Bool} {closures : ClosureRef → ClosureRef → Bool}
  {first second third : Value}

theorem equalAllVia_iff {items others : List Value} :
    equalAllVia dicts closures items others = true ↔
      List.Forall₂ (fun item other => equalVia dicts closures item other = true) items others := by
  induction items generalizing others with
  | nil => cases others <;> simp [equalAllVia]
  | cons item rest ih => cases others <;> simp [equalAllVia, ih]

theorem equalVia_iff :
    equalVia dicts closures first second = true ↔
      HeadsMatch (dicts · · = true) (closures · · = true) first second ∧
        List.Forall₂ (fun part part' => equalVia dicts closures part part' = true)
          first.parts second.parts := by
  constructor
  · fun_cases equalVia dicts closures first second
    all_goals intro same
    case case1 => exact ⟨.unit, .nil⟩
    case case2 => exact ⟨eq_of_beq same ▸ .int, .nil⟩
    case case3 => exact ⟨.float same, .nil⟩
    case case4 => exact ⟨eq_of_beq same ▸ .string, .nil⟩
    case case5 => exact ⟨eq_of_beq same ▸ .bool, .nil⟩
    case case6 => exact ⟨eq_of_beq same ▸ .bytes, .nil⟩
    case case7 => exact ⟨.list, equalAllVia_iff.mp same⟩
    case case8 => exact ⟨.dict same, .nil⟩
    case case9 => exact ⟨.absent, .nil⟩
    case case10 => exact ⟨.present, .cons same .nil⟩
    case case11 => exact ⟨.closure same, .nil⟩
    case case12 => exact ⟨eq_of_beq same ▸ .error, .nil⟩
    case case13 =>
      obtain ⟨index, fields⟩ := Bool.and_eq_true_iff.mp same
      exact ⟨eq_of_beq index ▸ .record, equalAllVia_iff.mp fields⟩
    case case14 => cases same
  · rintro ⟨heads, inside⟩
    cases heads <;> simp_all [equalVia, parts, equalAllVia_iff]

end

end Value

end ScriptHost
