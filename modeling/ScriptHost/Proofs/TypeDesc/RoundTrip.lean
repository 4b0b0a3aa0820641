import ScriptHost.Proofs.Json.Depth
import ScriptHost.Proofs.Json.Printing
import ScriptHost.TypeDesc.Json

/-! Types as documents and back. A reader needs room for as many containers as the document of the
type nests, and what it reads never needs more than what it was read from. -/
namespace ScriptHost.TypeDesc

open Json (isPlain arePlain depth depths fieldDepths)

/-! Documents of types. -/

theorem depth_withParts (name : String) (parts : Json) :
    (toJson.withParts name parts).depth = parts.depth + 1 := by
  simp [toJson.withParts, Json.ofFields, Json.ofString, depth, fieldDepths, Json.fieldDepth]

theorem isPlain_withParts (name : String) (parts : Json) :
    isPlain (toJson.withParts name parts) = isPlain parts := by
  simp [toJson.withParts, Json.ofFields, Json.ofString, isPlain, Json.arePlainFields,
    Json.isPlainField]

/-- The parts of a function type. -/
def functionParts (params : List TypeDesc) (result : TypeDesc) : Json :=
  Json.ofFields [("params", .array (toJsons params)), ("result", toJson result)]

theorem depth_functionParts (params : List TypeDesc) (result : TypeDesc) :
    (functionParts params result).depth =
      max (depths (toJsons params) + 1) (toJson result).depth + 1 := by
  simp [functionParts, Json.ofFields, depth, fieldDepths, Json.fieldDepth]

theorem toJson_of_mem_plain : ∀ type ∈ plain,
    toJson type = Json.ofFields [("type", Json.ofString type.code)] := by
  simp [plain, toJson]

mutual

theorem isPlain_toJson : (type : TypeDesc) → isPlain (toJson type)
  | .any | .unit | .int | .float | .string | .bool | .bytes | .handle | .error => rfl
  | .list item | .dict item | .optional item => by
    rw [toJson, isPlain_withParts]
    exact isPlain_toJson item
  | .function params result => by
    rw [toJson, isPlain_withParts]
    simp [Json.ofFields, isPlain, Json.arePlainFields, Json.isPlainField, arePlain_toJsons params,
      isPlain_toJson result]
  | .record _ => by
    rw [toJson, isPlain_withParts]
    rfl
  | .shape fields => by
    rw [toJson, isPlain_withParts, isPlain]
    exact arePlain_fieldsToJson fields

theorem arePlain_toJsons : (types : List TypeDesc) → arePlain (toJsons types)
  | [] => rfl
  | type :: types => by
    rw [toJsons, arePlain, isPlain_toJson type, arePlain_toJsons types]
    rfl

theorem arePlain_fieldsToJson : (fields : List (String × TypeDesc)) →
    arePlain (fieldsToJson fields)
  | [] => rfl
  | (name, type) :: fields => by
    rw [fieldsToJson, fieldToJson, arePlain, arePlain_fieldsToJson fields]
    simp [isPlain, arePlain, Json.ofString, isPlain_toJson type]

end

/-! Types read back. -/

/-- A field of a shape, in an array with its name. -/
def fieldOfJson? (held : Bool) (room : Nat) : Json → Option (String × TypeDesc)
  | .array [name, type] =>
    match name.asString?, ofJson? held room type with
    | some name, some type => some (name, type)
    | _, _ => none
  | _ => none

section
variable (held : Bool) (room : Nat)

private theorem ofFields?_withParts (name : String) (parts : Json) :
    Named.ofFields? held room [(some "type", .string (some name)), (some "of", parts)] =
      some ⟨name, some parts, held⟩ := by
  simp [Named.ofFields?, Json.keysWhole, Json.fieldOnce?, name?]

/-- The types with one type as their part. -/
def wrappers : List (String × (TypeDesc → TypeDesc)) :=
  [("list", .list), ("dict", .dict), ("optional", .optional)]

theorem ofJson?_wrapper (item : Json) : ∀ wrapper ∈ wrappers,
    ofJson? held (room + 1) (toJson.withParts wrapper.1 item) =
      (ofJson? held room item).map wrapper.2 := by
  simp [wrappers, toJson.withParts, Json.ofFields, Json.ofString, ofJson?, ofFields?_withParts]

theorem ofJson?_function {params : List TypeDesc} {result : TypeDesc}
    (paramsRead : (toJsons params).mapM (ofJson? held room) = some params)
    (resultRead : ofJson? held (room + 1) (toJson result) = some result) :
    ofJson? held (room + 3) (toJson (.function params result)) = some (.function params result) := by
  simp [toJson, toJson.withParts, Json.ofFields, Json.ofString, ofJson?, ofFields?_withParts,
    Json.keysWhole, Json.field?, Json.fieldOnce?, paramsRead, resultRead]

theorem ofJson?_record (name : String) :
    ofJson? held (room + 1) (toJson (.record name)) = some (.record name) := by
  simp [toJson, toJson.withParts, Json.ofFields, Json.ofString, ofJson?, ofFields?_withParts,
    Json.asString?]

theorem ofJson?_shape (items : List Json) :
    ofJson? held (room + 3) (toJson.withParts "shape" (.array items)) =
      (items.mapM (fieldOfJson? held room)).map .shape := by
  simp [toJson.withParts, Json.ofFields, Json.ofString, ofJson?, ofFields?_withParts]
  rfl

/-- A shape without fields needs one container less than others. -/
theorem ofJson?_emptyShape : ofJson? held (room + 2) (toJson (.shape [])) = some (.shape []) := by
  cases room with
  | zero =>
    simp [toJson, fieldsToJson, toJson.withParts, Json.ofFields, Json.ofString, ofJson?,
      ofFields?_withParts]
  | succ room =>
    rw [toJson, fieldsToJson, ofJson?_shape]
    rfl

private theorem ofFields?_name (name : String) :
    Named.ofFields? held room [(some "type", .string (some name))] = some ⟨name, none, held⟩ := by
  simp [Named.ofFields?, Json.keysWhole, Json.fieldOnce?, name?]

theorem ofJson?_name (name : String) :
    ofJson? held (room + 1) (Json.ofFields [("type", Json.ofString name)]) =
      plain.find? (·.code == name) := by
  simp [Json.ofFields, Json.ofString, ofJson?, ofFields?_name, ofPlainName?]

end

private theorem find?_code : ∀ type ∈ plain, plain.find? (·.code == type.code) = some type := by
  simp [plain, code]

private theorem ofJson?_of_mem_plain (held : Bool) {room : Nat} {type : TypeDesc}
    (member : type ∈ plain) (fits : (toJson type).depth ≤ room) :
    ofJson? held room (toJson type) = some type := by
  rw [toJson_of_mem_plain type member] at fits ⊢
  cases room with
  | zero => cases fits
  | succ room => rw [ofJson?_name, find?_code type member]

mutual

/-- A type is read back from its document, held or not, where there is room for it. -/
theorem ofJson?_toJson (held : Bool) : (type : TypeDesc) → {room : Nat} →
    (toJson type).depth ≤ room → ofJson? held room (toJson type) = some type
  | .any, _, fits | .unit, _, fits | .int, _, fits | .float, _, fits | .string, _, fits
  | .bool, _, fits | .bytes, _, fits | .handle, _, fits | .error, _, fits =>
    ofJson?_of_mem_plain held (by simp [plain]) fits
  | .list item, room, fits | .dict item, room, fits | .optional item, room, fits => by
    rw [toJson, depth_withParts] at fits
    obtain ⟨room, rfl⟩ := Nat.exists_eq_add_of_le' fits
    rw [toJson, ← Nat.add_assoc, ofJson?_wrapper held _ _ (_, _) (by simp [wrappers]; rfl),
      ofJson?_toJson held item (Nat.le_add_left _ _)]
    rfl
  | .function params result, room, fits => by
    have nested := depth_functionParts params result
    rw [toJson, depth_withParts, ← functionParts, nested] at fits
    obtain ⟨room, rfl⟩ : ∃ inner, room = inner + 3 := ⟨room - 3, by omega⟩
    exact ofJson?_function held room (mapM_toJsons held params (by omega))
      (ofJson?_toJson held result (by omega))
  | .record name, room, fits => by
    rw [toJson, depth_withParts] at fits
    obtain ⟨room, rfl⟩ := Nat.exists_eq_add_of_le' fits
    exact ofJson?_record held _ name
  | .shape [], room, fits => by
    rw [toJson, depth_withParts] at fits
    obtain ⟨room, rfl⟩ := Nat.exists_eq_add_of_le' fits
    exact ofJson?_emptyShape held room
  | .shape (field :: fields), room, fits => by
    rw [toJson, depth_withParts, depth] at fits
    have nested : 1 ≤ depths (fieldsToJson (field :: fields)) := by
      rw [fieldsToJson, fieldToJson, depths, depth]
      exact Nat.le_trans (Nat.le_add_left _ _) (Nat.le_max_left _ _)
    obtain ⟨room, rfl⟩ : ∃ inner, room = inner + 3 := ⟨room - 3, by omega⟩
    rw [toJson, ofJson?_shape, mapM_fieldsToJson held (field :: fields) (by omega)]
    rfl

theorem mapM_toJsons (held : Bool) : (types : List TypeDesc) → {room : Nat} →
    depths (toJsons types) ≤ room → (toJsons types).mapM (ofJson? held room) = some types
  | [], _, _ => rfl
  | type :: types, room, fits => by
    rw [toJsons, depths, Nat.max_le] at fits
    rw [toJsons, List.mapM_cons, ofJson?_toJson held type fits.1, mapM_toJsons held types fits.2]
    rfl

theorem mapM_fieldsToJson (held : Bool) : (fields : List (String × TypeDesc)) → {room : Nat} →
    depths (fieldsToJson fields) ≤ room + 1 →
    (fieldsToJson fields).mapM (fieldOfJson? held room) = some fields
  | [], _, _ => rfl
  | (name, type) :: fields, room, fits => by
    rw [fieldsToJson, depths, Nat.max_le] at fits
    rw [fieldsToJson, List.mapM_cons, mapM_fieldsToJson held fields fits.2]
    have inner : (toJson type).depth ≤ room := by
      simpa [fieldToJson, depth, depths, Json.ofString] using fits.1
    simp [fieldToJson, fieldOfJson?, Json.asString?, Json.ofString, ofJson?_toJson held type inner]

end

/-! What is read does not nest deeper than what it was read from, and fits into the same room. -/

private theorem parts_of_ofFields? {held : Bool} {room : Nat} {fields : List (Option String × Json)}
    {named : Named} (read : Named.ofFields? held room fields = some named) :
    Json.fieldOnce? "of" fields = some named.parts := by
  simp only [Named.ofFields?, Option.bind_eq_bind] at read
  split at read
  · cases read
  · simp only [Option.bind_eq_some_iff] at read
    obtain ⟨_, _, _, _, parts, found, rest⟩ := read
    split at rest <;> cases rest
    exact found

/-- What an object or array says about a type. -/
def named? (held : Bool) (room : Nat) : Json → Option Named
  | .object fields => Named.ofFields? held room fields
  | .array [name, parts] => (itemName? held name).map fun name => ⟨name, some parts, held⟩
  | _ => none

private theorem depth_of_named? {held : Bool} {room : Nat} {json : Json} {named : Named}
    (read : named? held room json = some named) :
    1 ≤ json.depth ∧ ∀ item ∈ named.parts, item.depth + 1 ≤ json.depth := by
  unfold named? at read
  split at read
  · rename_i fields
    have found := parts_of_ofFields? read
    refine ⟨Nat.succ_pos _, fun item member => ?_⟩
    rw [member] at found
    exact Nat.succ_le_succ (Json.depth_le_of_fieldOnce? found)
  · rename_i name parts
    obtain ⟨_, _, rfl⟩ := Option.map_eq_some_iff.mp read
    refine ⟨Nat.succ_pos _, fun item member => ?_⟩
    cases member
    exact Nat.succ_le_succ (Json.depth_le_depths (by simp))
  · cases read

private theorem depth_of_fieldOfJson? {held : Bool} {room : Nat} {json : Json}
    {field : String × TypeDesc}
    (each : ∀ item type, ofJson? held room item = some type →
      (toJson type).depth ≤ room ∧ (toJson type).depth ≤ item.depth)
    (read : fieldOfJson? held room json = some field) :
    (fieldToJson field).depth ≤ room + 1 ∧ (fieldToJson field).depth ≤ json.depth := by
  unfold fieldOfJson? at read
  split at read
  · rename_i name item
    split at read <;> cases read
    rename_i name type _ found
    have inner := each item type found
    simp only [fieldToJson, Json.ofString, depth, depths]
    omega
  · cases read

private theorem mem_plain_of_ofPlainName? {name : String} {parts : Option Json} {type : TypeDesc}
    (read : ofPlainName? name parts = some type) : type ∈ plain := by
  unfold ofPlainName? at read
  split at read
  · exact List.mem_of_find?_eq_some read
  · exact List.mem_of_find?_eq_some read
  · cases read

private theorem depth_of_parts {room : Nat} {json item parts : Json}
    (inner : parts.depth ≤ room ∧ parts.depth ≤ item.depth) (within : item.depth + 1 ≤ json.depth)
    {name : String} : (toJson.withParts name parts).depth ≤ room + 1 ∧
      (toJson.withParts name parts).depth ≤ json.depth := by
  rw [depth_withParts]
  omega

private theorem depth_of_functionParts {room : Nat} {fields : List (Option String × Json)}
    {items : List Json} {item : Json} {params : List TypeDesc} {result : TypeDesc}
    (paramsFound : Json.field? "params" fields = some (.array items))
    (resultFound : Json.field? "result" fields = some item)
    (paramsFit : depths (toJsons params) ≤ room ∧ depths (toJsons params) ≤ depths items)
    (resultFits : (toJson result).depth ≤ room + 1 ∧ (toJson result).depth ≤ item.depth) :
    (functionParts params result).depth ≤ room + 2 ∧
      (functionParts params result).depth ≤ (Json.object fields).depth := by
  have paramsWithin := Json.depth_le_of_field? paramsFound
  have resultWithin := Json.depth_le_of_field? resultFound
  simp only [depth_functionParts, depth] at paramsWithin ⊢
  omega

private theorem fieldsToJson_eq_map (fields : List (String × TypeDesc)) :
    fieldsToJson fields = fields.map fieldToJson := by
  induction fields with
  | nil => rfl
  | cons field fields ih => rw [fieldsToJson, ih, List.map_cons]

private theorem toJsons_eq_map (types : List TypeDesc) : toJsons types = types.map toJson := by
  induction types with
  | nil => rfl
  | cons type types ih => rw [toJsons, ih, List.map_cons]

/-- A type that is read nests no deeper than the document and fits into the same room. -/
theorem depth_of_ofJson? {held : Bool} {room : Nat} {json : Json} {type : TypeDesc}
    (read : ofJson? held room json = some type) :
    (toJson type).depth ≤ room ∧ (toJson type).depth ≤ json.depth := by
  induction room using Nat.strongRecOn generalizing held json type with
  | ind room ih =>
    cases room with
    | zero =>
      unfold ofJson? at read
      cases read
    | succ room =>
      unfold ofJson? at read
      dsimp only at read
      split at read
      · cases read
      · rename_i name parts held' named
        obtain ⟨nonempty, within⟩ := depth_of_named? named
        split at read
        · obtain ⟨item, found, rfl⟩ := Option.map_eq_some_iff.mp read
          exact depth_of_parts (ih _ (Nat.lt_succ_self _) found) (within _ rfl)
        · obtain ⟨item, found, rfl⟩ := Option.map_eq_some_iff.mp read
          exact depth_of_parts (ih _ (Nat.lt_succ_self _) found) (within _ rfl)
        · obtain ⟨content, found, rfl⟩ := Option.map_eq_some_iff.mp read
          exact depth_of_parts (ih _ (Nat.lt_succ_self _) found) (within _ rfl)
        · split at read
          · cases read
          · split at read <;> try cases read
            rename_i room paramsFound resultFound
            split at read <;> cases read
            rename_i paramsRead resultRead
            have paramsFit := Json.depths_le_of_mapM
              (fun _ _ param => ih room (by omega) param) paramsRead
            rw [← toJsons_eq_map] at paramsFit
            have resultFits := ih (room + 1) (by omega) resultRead
            exact depth_of_parts
              (depth_of_functionParts paramsFound resultFound paramsFit resultFits) (within _ rfl)
        · obtain ⟨name, _, rfl⟩ := Option.map_eq_some_iff.mp read
          rw [toJson, depth_withParts]
          exact ⟨Nat.le_add_left _ _, nonempty⟩
        · rename_i items room
          obtain ⟨fields, found, rfl⟩ := Option.map_eq_some_iff.mp read
          change items.mapM (fieldOfJson? held' room) = some fields at found
          have fieldsFit := Json.depths_le_of_mapM (fun _ _ field => depth_of_fieldOfJson?
            (fun _ _ type => ih room (by omega) type) field) found
          rw [← fieldsToJson_eq_map] at fieldsFit
          have inner : (Json.array (fieldsToJson fields)).depth ≤ room + 2 ∧
              (Json.array (fieldsToJson fields)).depth ≤ (Json.array items).depth :=
            ⟨Nat.succ_le_succ fieldsFit.1, Nat.succ_le_succ fieldsFit.2⟩
          exact depth_of_parts inner (within _ rfl)
        · cases read
          rw [toJson, depth_withParts]
          exact ⟨Nat.le_refl _, within _ rfl⟩
        · rw [toJson_of_mem_plain type (mem_plain_of_ofPlainName? read)]
          exact ⟨Nat.succ_le_succ (Nat.zero_le _), nonempty⟩

end ScriptHost.TypeDesc
