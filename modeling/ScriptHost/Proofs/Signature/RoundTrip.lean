import ScriptHost.Proofs.TypeDesc.RoundTrip
import ScriptHost.Signature.Json

/-! Signatures as documents and back. -/
namespace ScriptHost.Signature

open Json (isPlain arePlain depth depths fieldDepths)

/-! Documents of signatures. -/

/-- How deep the deepest type of a signature nests. -/
def typesDepth (signature : Signature) : Nat :=
  max (depths (signature.paramTypes.map TypeDesc.toJson) + 1)
    (max signature.result.toJson.depth ((signature.receiver.map (·.toJson.depth)).getD 0))

private theorem depths_ofString (names : List String) :
    depths (names.map Json.ofString) = 0 := by
  induction names with
  | nil => rfl
  | cons name names ih => simp [depths, depth, Json.ofString, ih]

theorem depth_toJson (signature : Signature) :
    signature.toJson.depth = signature.typesDepth + 1 := by
  obtain ⟨id, name, arity, paramNames, paramTypes, result, receiver, method⟩ := signature
  cases receiver <;> cases method <;>
    simp [toJson, typesDepth, Json.ofFields, depth, fieldDepths, Json.fieldDepth, Json.ofString,
      Json.ofNat, depths_ofString]

private theorem arePlain_map {α : Type} {write : α → Json} (each : ∀ value, isPlain (write value))
    (values : List α) : arePlain (values.map write) := by
  induction values with
  | nil => rfl
  | cons value values ih => rw [List.map_cons, arePlain, each, ih, Bool.and_self]

theorem isPlain_toJson (signature : Signature) : isPlain signature.toJson := by
  obtain ⟨id, name, arity, paramNames, paramTypes, result, receiver, method⟩ := signature
  have names : arePlain (paramNames.map Json.ofString) := arePlain_map (fun _ => rfl) paramNames
  have types : arePlain (paramTypes.map TypeDesc.toJson) :=
    arePlain_map TypeDesc.isPlain_toJson paramTypes
  cases receiver <;> cases method <;>
    simp [toJson, Json.ofFields, isPlain, Json.arePlainFields, Json.isPlainField, Json.ofString,
      Json.ofNat, Numeral.ofNat, Numeral.toNat?, names, types, TypeDesc.isPlain_toJson]

/-! Signatures read back. -/

private theorem asNatBelow?_ofNat {bound number : Nat} (below : number < bound) :
    (Json.ofNat number).asNatBelow? bound = some number := by
  simp [Json.ofNat, Json.asNatBelow?, Numeral.ofNat, Numeral.toNat?, below]

private theorem optional?_some {α : Type} (read : Json → Option α) {json : Json}
    (given : json ≠ .null) : optional? read (some json) = (read json).map some := by
  cases json <;> first | rfl | contradiction

private theorem toJson_ne_null (type : TypeDesc) : type.toJson ≠ .null := by
  cases type <;> simp [TypeDesc.toJson, TypeDesc.toJson.withParts, Json.ofFields]

private theorem optional?_receiver {room : Nat} (receiver : Option TypeDesc)
    (fits : (receiver.map (·.toJson.depth)).getD 0 ≤ room) :
    optional? (TypeDesc.ofJson? false room) (receiver.map TypeDesc.toJson) = some receiver := by
  cases receiver with
  | none => rfl
  | some type =>
    rw [Option.map_some, optional?_some _ (toJson_ne_null type),
      TypeDesc.ofJson?_toJson false type fits]
    rfl

private theorem optional?_method (method : Option String) :
    optional? Json.asString? (method.map Json.ofString) = some method := by
  cases method <;> rfl

private theorem ofParts?_toJson {signature : Signature} (counted : signature.arity < UInt64.size)
    {room : Nat} (fits : signature.typesDepth ≤ room) :
    ofParts? room (Json.ofNat signature.id.number.toNat) (Json.ofString signature.name)
      (Json.ofNat signature.arity) (.array (signature.paramNames.map Json.ofString))
      (.array (signature.paramTypes.map TypeDesc.toJson)) signature.result.toJson
      (signature.receiver.map TypeDesc.toJson) (signature.method.map Json.ofString) =
        some signature := by
  simp only [typesDepth, Nat.max_le] at fits
  obtain ⟨paramsFit, resultFits, receiverFits⟩ := fits
  have numberRead := asNatBelow?_ofNat signature.id.number.toNat_lt
  have arityRead := asNatBelow?_ofNat counted
  have namesRead : (signature.paramNames.map Json.ofString).mapM Json.asString? =
      some signature.paramNames := Json.mapM_map_write fun _ _ => rfl
  have typesRead : (signature.paramTypes.map TypeDesc.toJson).mapM
      (TypeDesc.ofJson? false (room - 1)) = some signature.paramTypes := by
    refine Json.mapM_map_write fun type member => ?_
    have shallow := Json.depth_le_depths (List.mem_map_of_mem (f := TypeDesc.toJson) member)
    exact TypeDesc.ofJson?_toJson false type (by omega)
  have resultRead := TypeDesc.ofJson?_toJson false signature.result resultFits
  have receiverRead := optional?_receiver signature.receiver receiverFits
  have methodRead := optional?_method signature.method
  change (Json.ofNat signature.id.number.toNat).asNatBelow? UInt32.size = _ at numberRead
  have nameRead : (Json.ofString signature.name).asString? = some signature.name := rfl
  simp [ofParts?, items?, numberRead, nameRead, arityRead, namesRead, typesRead, resultRead,
    receiverRead, methodRead]

/-- A signature is read back from its document, if that does not nest too deep. -/
theorem ofJson?_toJson {signature : Signature} (counted : signature.arity < UInt64.size)
    (fits : signature.toJson.depth ≤ jsonDepth) : ofJson? signature.toJson = some signature := by
  rw [depth_toJson] at fits
  have parts := ofParts?_toJson counted (Nat.le_sub_of_add_le fits)
  cases receiver : signature.receiver <;> cases method : signature.method <;>
    rw [receiver, method] at parts <;>
    simp [toJson, Json.ofFields, receiver, method, ofJson?, Json.keysWhole, Json.fieldOnce?,
      Json.field?, ← parts]

/-! What is read does not nest deeper than what it was read from. -/

private theorem lt_of_asNatBelow? {bound number : Nat} {json : Json}
    (read : json.asNatBelow? bound = some number) : number < bound := by
  unfold Json.asNatBelow? at read
  split at read
  · obtain ⟨_, below⟩ := Option.filter_eq_some_iff.mp read
    exact of_decide_eq_true below
  · cases read

private theorem exists_items {α : Type} {read : Json → Option α} {json : Json} {values : List α}
    (found : items? read json = some values) :
    ∃ items, json = .array items ∧ items.mapM read = some values := by
  unfold items? at found
  split at found
  · exact ⟨_, rfl, found⟩
  · cases found

private theorem depth_of_optional? {room : Nat} {json : Option Json} {receiver : Option TypeDesc}
    (read : optional? (TypeDesc.ofJson? false room) json = some receiver) {deep : Nat}
    (within : ∀ part ∈ json, part.depth ≤ deep) :
    (receiver.map (·.toJson.depth)).getD 0 ≤ room ∧
      (receiver.map (·.toJson.depth)).getD 0 ≤ deep := by
  unfold optional? at read
  split at read
  · cases read
    exact ⟨Nat.zero_le _, Nat.zero_le _⟩
  · cases read
    exact ⟨Nat.zero_le _, Nat.zero_le _⟩
  · rename_i part _
    obtain ⟨type, found, rfl⟩ := Option.map_eq_some_iff.mp read
    have inner := TypeDesc.depth_of_ofJson? found
    exact ⟨inner.1, Nat.le_trans inner.2 (within part rfl)⟩

private theorem depth_of_ofParts? {room deep : Nat}
    {id name arity paramNames paramTypes result : Json} {receiver method : Option Json}
    {signature : Signature}
    (read : ofParts? room id name arity paramNames paramTypes result receiver method =
      some signature) (roomy : 1 ≤ room) (types : paramTypes.depth ≤ deep)
    (resulting : result.depth ≤ deep) (receiving : ∀ part ∈ receiver, part.depth ≤ deep) :
    signature.arity < UInt64.size ∧ signature.toJson.depth ≤ room + 1 ∧
      signature.toJson.depth ≤ deep + 1 := by
  simp only [ofParts?, Option.bind_eq_bind, Option.bind_eq_some_iff] at read
  obtain ⟨_, _, _, _, _, counted, _, _, _, typesRead, _, resultRead, _, receiverRead, _, _, same⟩ :=
    read
  cases same
  obtain ⟨items, rfl, found⟩ := exists_items typesRead
  have params := Json.depths_le_of_mapM (fun _ _ => TypeDesc.depth_of_ofJson?) found
  have result := TypeDesc.depth_of_ofJson? resultRead
  have receiver := depth_of_optional? receiverRead receiving
  rw [depth] at types
  refine ⟨lt_of_asNatBelow? counted, ?_⟩
  simp only [depth_toJson, Nat.add_le_add_iff_right, typesDepth, Nat.max_le]
  omega

/-- A signature that is read counts its parameters in a machine word, and nests no deeper than the
document and than a reader takes. -/
theorem depth_of_ofJson? {json : Json} {signature : Signature} (read : ofJson? json = some signature) :
    signature.arity < UInt64.size ∧ signature.toJson.depth ≤ jsonDepth ∧
      signature.toJson.depth ≤ json.depth := by
  unfold ofJson? at read
  split at read
  · rename_i fields
    simp only [Option.bind_eq_bind] at read
    split at read
    · cases read
    · simp only [Option.bind_eq_some_iff] at read
      obtain ⟨receiver, receiving, _, _, _, _, _, _, _, _, _, _, _, types, _, result, read⟩ := read
      refine depth_of_ofParts? read (by decide) (Json.depth_le_of_field? types)
        (Json.depth_le_of_field? result) fun part member => ?_
      cases member
      exact Json.depth_le_of_fieldOnce? receiving
  · rename_i id name arity paramNames paramTypes result rest
    have within : ∀ part ∈ paramTypes :: result :: rest, part.depth ≤
        depths (id :: name :: arity :: paramNames :: paramTypes :: result :: rest) := fun _ member =>
      Json.depth_le_depths (by simp_all)
    split at read
    · exact depth_of_ofParts? read (by decide) (within _ (by simp)) (within _ (by simp))
        (fun _ member => nomatch member)
    · refine depth_of_ofParts? read (by decide) (within _ (by simp)) (within _ (by simp)) ?_
      rintro _ ⟨⟩
      exact within _ (by simp)
    · refine depth_of_ofParts? read (by decide) (within _ (by simp)) (within _ (by simp)) ?_
      rintro _ ⟨⟩
      exact within _ (by simp)
    · cases read
  · cases read

end ScriptHost.Signature
