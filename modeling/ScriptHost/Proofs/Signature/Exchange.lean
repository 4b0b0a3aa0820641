import ScriptHost.Proofs.Signature.RoundTrip

/-! Types and signatures as texts that programs exchange. -/
namespace ScriptHost

/-- How many containers stand in one another at the deepest place of a text, if it is JSON. -/
def Json.nesting? (text : String) : Option Nat := (Json.ofText? text).map Json.depth

/-- Values survive their texts. A text of a value that fits is read back as long as it nests no
deeper than readers go. What was read from any text has a text that nests no deeper and is read as the
same again. -/
structure Survive {α : Type} (toJson : α → Json) (ofText? : String → Option α) (fits : α → Prop) :
    Prop where
  back : ∀ print ∈ [Json.compact, Json.pretty], ∀ value,
    ∃ deep, Json.nesting? (print (toJson value)) = some deep ∧
      (ofText? (print (toJson value)) = some value ↔ fits value ∧ deep ≤ jsonDepth)
  again : ∀ print ∈ [Json.compact, Json.pretty], ∀ text value, ofText? text = some value →
    ∃ accepted deep, Json.nesting? text = some accepted ∧
      Json.nesting? (print (toJson value)) = some deep ∧ deep ≤ accepted ∧
      ofText? (print (toJson value)) = some value

private theorem ofText?_print {print : Json → String} (printer : print ∈ [Json.compact, Json.pretty])
    {json : Json} (plain : Json.isPlain json) : Json.ofText? (print json) = some json := by
  simp only [List.mem_cons, List.not_mem_nil, or_false] at printer
  rcases printer with rfl | rfl
  · exact Json.ofText?_compact plain
  · exact Json.ofText?_pretty plain

/-- Values survive their texts if plain documents stand for them, if those are read back where they
do not nest too deep, and if what is read nests no deeper than what it was read from. -/
theorem survive_of_documents {α : Type} {toJson : α → Json} {ofJson? : Json → Option α}
    {fits : α → Prop} (plain : ∀ value, Json.isPlain (toJson value))
    (back : ∀ value, fits value → (toJson value).depth ≤ jsonDepth →
      ofJson? (toJson value) = some value)
    (bounded : ∀ json value, ofJson? json = some value →
      fits value ∧ (toJson value).depth ≤ jsonDepth ∧ (toJson value).depth ≤ json.depth) :
    Survive toJson (fun text => (Json.ofText? text).bind ofJson?) fits := by
  constructor
  · intro print printer value
    have read := ofText?_print printer (plain value)
    refine ⟨(toJson value).depth, by rw [Json.nesting?, read]; rfl, ?_⟩
    rw [read, Option.bind_some]
    constructor
    · intro found
      obtain ⟨suits, limited, _⟩ := bounded _ _ found
      exact ⟨suits, limited⟩
    · rintro ⟨suits, limited⟩
      exact back value suits limited
  · intro print printer text value found
    obtain ⟨json, spelled, found⟩ := Option.bind_eq_some_iff.mp found
    obtain ⟨suits, limited, shallow⟩ := bounded json value found
    have read := ofText?_print printer (plain value)
    refine ⟨json.depth, (toJson value).depth, by rw [Json.nesting?, spelled]; rfl,
      by rw [Json.nesting?, read]; rfl, shallow, ?_⟩
    rw [read, Option.bind_some]
    exact back value suits limited

/-- Types survive their texts, and so do signatures that count their parameters in a machine word. -/
theorem types_and_signatures_survive :
    Survive TypeDesc.toJson TypeDesc.ofText? (fun _ => True) ∧
      Survive Signature.toJson Signature.ofText? (·.arity < UInt64.size) := by
  constructor
  · exact survive_of_documents TypeDesc.isPlain_toJson
      (fun type _ => TypeDesc.ofJson?_toJson false type)
      (fun _ _ read => ⟨trivial, TypeDesc.depth_of_ofJson? read⟩)
  · exact survive_of_documents Signature.isPlain_toJson
      (fun _ => Signature.ofJson?_toJson) (fun _ _ => Signature.depth_of_ofJson?)

/-- A type whose parts stand in front of its name, behind a field that nobody asks for. -/
theorem types_and_signatures_survive_unordered :
    let document : Json := .object [(some "note", .array []),
      (some "of", .array [Json.ofString "int", .null]), (some "type", Json.ofString "list")]
    TypeDesc.ofText? document.compact = some (.list .int) ∧
      ∃ accepted deep, Json.nesting? document.compact = some accepted ∧
        Json.nesting? (TypeDesc.toJson (.list .int)).compact = some deep ∧ deep ≤ accepted ∧
        TypeDesc.ofText? (TypeDesc.toJson (.list .int)).compact = some (.list .int) := by
  intro document
  have spelled : Json.ofText? document.compact = some document := Json.ofText?_compact (by decide)
  have read : TypeDesc.ofText? document.compact = some (.list .int) := by
    rw [TypeDesc.ofText?, spelled]
    decide +kernel
  exact ⟨read, types_and_signatures_survive.1.again _ (List.mem_cons_self) _ _ read⟩

end ScriptHost
