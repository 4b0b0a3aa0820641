import Mathlib.Data.List.Forall2
import ScriptHost.Json.Reader
import ScriptHost.Proofs.Json.Tokens

/-! Documents that are printed and read. Whole texts and counts come back the same, on one line or
over several, at any depth. -/
namespace ScriptHost.Json

mutual

/-- Whether a document holds no texts but whole ones and no numbers but counts. -/
def isPlain : Json → Bool
  | .null | .bool _ => true
  | .number numeral => numeral.toNat?.isSome
  | .string text => text.isSome
  | .array items => arePlain items
  | .object fields => arePlainFields fields

def arePlain : List Json → Bool
  | [] => true
  | item :: rest => isPlain item && arePlain rest

def arePlainFields : List (Option String × Json) → Bool
  | [] => true
  | field :: rest => isPlainField field && arePlainFields rest

def isPlainField : Option String × Json → Bool
  | (key, item) => key.isSome && isPlain item

end

mutual

/-- The tokens that a document is spelled with. -/
def spelling : Json → List Token
  | .array items =>
    .openBracket :: ([.comma].intercalate (spellings items) ++ [.closeBracket])
  | .object fields =>
    .openBrace :: ([.comma].intercalate (fieldSpellings fields) ++ [.closeBrace])
  | scalar => [.scalar scalar]

def spellings : List Json → List (List Token)
  | [] => []
  | item :: rest => spelling item :: spellings rest

def fieldSpellings : List (Option String × Json) → List (List Token)
  | [] => []
  | field :: rest => fieldSpelling field :: fieldSpellings rest

def fieldSpelling : Option String × Json → List Token
  | (key, item) => .scalar (.string key) :: .colon :: spelling item

end

/-! Tokens to documents. -/

private theorem intercalate_cons (separator first : List Token) (more : List (List Token)) :
    separator.intercalate (first :: more) = first ++ more.flatMap (separator ++ ·) := by
  induction more generalizing first with
  | nil => simp
  | cons next more ih => simp [List.intercalate_cons_cons, ih]

theorem ofTokens_cons (expected : Expected) (stack : List Frame) (token : Token)
    (rest : List Token) :
    ofTokens expected stack (token :: rest) =
      (step expected stack token).bind fun (next, stack) => ofTokens next stack rest := by
  rw [ofTokens]
  cases step expected stack token <;> rfl

/-- An array that has just begun takes its first item like any value. -/
private theorem ofTokens_firstItem (stack : List Frame) (item : Json) (rest : List Token) :
    ofTokens .firstItem stack (spelling item ++ rest) =
      ofTokens .value stack (spelling item ++ rest) := by
  cases item <;> simp [spelling, ofTokens, step]

mutual

/-- The tokens of a document put it into the innermost container, whatever follows. -/
theorem ofTokens_spelling : (json : Json) → {stack left : List Frame} → {next : Expected} →
    finish json stack = some (next, left) → (rest : List Token) →
    ofTokens .value stack (spelling json ++ rest) = ofTokens next left rest
  | .null, _, _, _, finished, _ | .bool _, _, _, _, finished, _
  | .number _, _, _, _, finished, _ | .string _, _, _, _, finished, _ => by
    simp [spelling, ofTokens_cons, step, beginValue, finished]
  | .array [], _, _, _, finished, _ => by
    simp [spelling, spellings, ofTokens_cons, step, beginValue, closeFrame, finished]
  | .array (item :: items), stack, left, next, finished, rest => by
    have opened : finish item (.array [] :: stack) = some (.more, .array [item] :: stack) := rfl
    rw [spelling, spellings, intercalate_cons, List.cons_append, ofTokens_cons]
    simp only [step, beginValue, Option.bind_some, List.append_assoc]
    rw [ofTokens_firstItem, ofTokens_spelling item opened]
    exact @ofTokens_items items [item] _ _ _ finished rest
  | .object [], _, _, _, finished, _ => by
    simp [spelling, fieldSpellings, ofTokens_cons, step, beginValue, closeFrame, finished]
  | .object ((key, item) :: fields), stack, left, next, finished, rest => by
    have opened : finish item (.field [] key :: stack) =
      some (.more, .object [(key, item)] :: stack) := rfl
    rw [spelling, fieldSpellings, fieldSpelling, intercalate_cons, List.cons_append, ofTokens_cons]
    simp only [step, beginValue, Option.bind_some, List.append_assoc, List.cons_append,
      ofTokens_cons, takeKey]
    rw [ofTokens_spelling item opened]
    exact @ofTokens_fields fields [(key, item)] _ _ _ finished rest

theorem ofTokens_items : (items : List Json) → {read : List Json} → {stack left : List Frame} →
    {next : Expected} → finish (.array (read.reverse ++ items)) stack = some (next, left) →
    (rest : List Token) →
    ofTokens .more (.array read :: stack)
      ((spellings items).flatMap ([.comma] ++ ·) ++ ([.closeBracket] ++ rest)) =
        ofTokens next left rest
  | [], _, _, _, _, finished, rest => by
    rw [List.append_nil] at finished
    simp [spellings, ofTokens_cons, step, closeFrame, finished]
  | item :: items, read, stack, _, _, finished, rest => by
    have taken : finish item (.array read :: stack) =
      some (.more, .array (item :: read) :: stack) := rfl
    rw [spellings, List.flatMap_cons]
    simp only [List.append_assoc, List.cons_append, List.nil_append, ofTokens_cons, step,
      Option.bind_some]
    rw [ofTokens_spelling item taken]
    exact ofTokens_items items (by simpa using finished) rest

theorem ofTokens_fields : (fields : List (Option String × Json)) →
    {read : List (Option String × Json)} → {stack left : List Frame} → {next : Expected} →
    finish (.object (read.reverse ++ fields)) stack = some (next, left) → (rest : List Token) →
    ofTokens .more (.object read :: stack)
      ((fieldSpellings fields).flatMap ([.comma] ++ ·) ++ ([.closeBrace] ++ rest)) =
        ofTokens next left rest
  | [], _, _, _, _, finished, rest => by
    rw [List.append_nil] at finished
    simp [fieldSpellings, ofTokens_cons, step, closeFrame, finished]
  | (key, item) :: fields, read, stack, _, _, finished, rest => by
    have taken : finish item (.field read key :: stack) =
      some (.more, .object ((key, item) :: read) :: stack) := rfl
    rw [fieldSpellings, fieldSpelling, List.flatMap_cons]
    simp only [List.append_assoc, List.cons_append, List.nil_append, ofTokens_cons, step, takeKey,
      Option.bind_some]
    rw [ofTokens_spelling item taken]
    exact ofTokens_fields fields (by simpa using finished) rest

end

/-! Documents to characters. -/

private theorem endsNumber_of_blanks {gap : List Char} (spaces : gap.all isSpace)
    {rest : List Char} (ends : EndsNumber rest) : EndsNumber (gap ++ rest) := by
  cases gap with
  | nil => exact ends
  | cons char gap =>
    rw [List.all_cons, Bool.and_eq_true] at spaces
    have space := spaces.1
    simp only [isSpace, Bool.or_eq_true, beq_iff_eq, or_assoc] at space
    rw [List.cons_append]
    rcases space with rfl | rfl | rfl | rfl <;> exact .cons (by decide) _

/-- Pieces between two marks, with a comma and perhaps blanks between them. -/
private theorem spells_between {first last : Char} {opening closing : Token}
    (opens : ∀ rest, readToken (first :: rest) = some (opening, rest))
    (closes : ∀ rest, readToken (last :: rest) = some (closing, rest))
    (ends : last.isDigit = false ∧ last ≠ '.' ∧ last ≠ 'e' ∧ last ≠ 'E')
    {lead gap trail : List Char} (leadBlank : lead.all isSpace) (gapBlank : gap.all isSpace)
    (trailBlank : trail.all isSpace) {pieces : List (List Char)} {parts : List (List Token)}
    (each : List.Forall₂ Spells pieces parts) :
    Spells (first :: (lead ++ ((',' :: gap).intercalate pieces ++ (trail ++ [last]))))
      (opening :: ([.comma].intercalate parts ++ [closing])) := by
  have closed : Spells (trail ++ [last]) [closing] := .blanks trailBlank (.mark closes .nil)
  have apart : ∀ rest, EndsNumber (trail ++ [last] ++ rest) := by
    intro rest
    rw [List.append_assoc]
    exact endsNumber_of_blanks trailBlank (.cons ends rest)
  exact .mark opens (.blanks leadBlank (.separated gapBlank each closed apart))

private theorem spells_array {lead gap trail : List Char} (leadBlank : lead.all isSpace)
    (gapBlank : gap.all isSpace) (trailBlank : trail.all isSpace) {pieces : List (List Char)}
    {items : List Json} (each : List.Forall₂ Spells pieces (spellings items)) :
    Spells ('[' :: (lead ++ ((',' :: gap).intercalate pieces ++ (trail ++ [']']))))
      (spelling (.array items)) := by
  rw [spelling]
  exact spells_between (fun _ => rfl) (fun _ => rfl) (by decide) leadBlank gapBlank trailBlank each

private theorem spells_object {lead gap trail : List Char} (leadBlank : lead.all isSpace)
    (gapBlank : gap.all isSpace) (trailBlank : trail.all isSpace) {pieces : List (List Char)}
    {fields : List (Option String × Json)}
    (each : List.Forall₂ Spells pieces (fieldSpellings fields)) :
    Spells ('{' :: (lead ++ ((',' :: gap).intercalate pieces ++ (trail ++ ['}']))))
      (spelling (.object fields)) := by
  rw [spelling]
  exact spells_between (fun _ => rfl) (fun _ => rfl) (by decide) leadBlank gapBlank trailBlank each

/-- A key in front of its value, with a colon and perhaps blanks between them. -/
private theorem spells_field (key : String) {gap chars : List Char} (spaces : gap.all isSpace)
    {item : Json} (spelled : Spells chars (spelling item)) :
    Spells ((quote key).toList ++ ':' :: (gap ++ chars)) (fieldSpelling (some key, item)) := by
  rw [fieldSpelling]
  have behind : Spells (':' :: (gap ++ chars)) (.colon :: spelling item) :=
    .mark (fun _ => rfl) (.blanks spaces spelled)
  exact (spells_quote key).append behind fun _ _ => .cons (by decide) _

private theorem numeral_of_toNat? {numeral : Numeral} (count : numeral.toNat?.isSome) :
    numeral = .ofNat numeral.whole := by
  obtain ⟨negative, whole, fraction, exponent⟩ := numeral
  simp only [Numeral.toNat?] at count
  split at count
  · cases count
  · simp_all [Numeral.ofNat]

private theorem spells_number {numeral : Numeral} (plain : isPlain (.number numeral)) :
    Spells (numeralText numeral).toList [.scalar (.number numeral)] := by
  rw [isPlain] at plain
  rw [numeral_of_toNat? plain]
  have printed : numeralText (.ofNat numeral.whole) = toString numeral.whole := by
    simp [numeralText, Numeral.ofNat]
  rw [printed]
  exact spells_toString numeral.whole

mutual

theorem spells_compact : (json : Json) → isPlain json → Spells (compact json).toList (spelling json)
  | .null, _ => spells_null
  | .bool truth, _ => spells_bool truth
  | .number _, plain => spells_number plain
  | .string (some text), _ => spells_quote text
  | .array items, plain => by
    rw [isPlain] at plain
    have pieces := @spells_array [] [] [] rfl rfl rfl _ _ (spells_compactAll items plain)
    simpa [compact, String.toList_intercalate] using pieces
  | .object fields, plain => by
    rw [isPlain] at plain
    have pieces := @spells_object [] [] [] rfl rfl rfl _ _ (spells_compactFields fields plain)
    simpa [compact, String.toList_intercalate] using pieces

theorem spells_compactAll : (items : List Json) → arePlain items →
    List.Forall₂ Spells ((compactAll items).map String.toList) (spellings items)
  | [], _ => .nil
  | item :: items, plain => by
    rw [arePlain, Bool.and_eq_true] at plain
    exact .cons (spells_compact item plain.1) (spells_compactAll items plain.2)

theorem spells_compactFields : (fields : List (Option String × Json)) → arePlainFields fields →
    List.Forall₂ Spells ((compactFields fields).map String.toList) (fieldSpellings fields)
  | [], _ => .nil
  | field :: fields, plain => by
    rw [arePlainFields, Bool.and_eq_true] at plain
    exact .cons (spells_compactField field plain.1) (spells_compactFields fields plain.2)

theorem spells_compactField : (field : Option String × Json) → isPlainField field →
    Spells (compactField field).toList (fieldSpelling field)
  | (some key, item), plain => by
    rw [isPlainField, Bool.and_eq_true] at plain
    have spelled := @spells_field key [] _ rfl item (spells_compact item plain.2)
    simpa [compactField] using spelled

end

/-- Blanks around the lines of a container, none around no lines at all. -/
private theorem toList_bracketed (indent first last : String) (lines : List String) :
    ∃ lead trail : List Char, (indent.toList.all isSpace → lead.all isSpace ∧ trail.all isSpace) ∧
      (bracketed indent first last lines).toList = first.toList ++ (lead ++
        ((',' :: ['\n']).intercalate
          (lines.map fun line => indent.toList ++ [' ', ' '] ++ line.toList) ++
          (trail ++ last.toList))) := by
  cases lines with
  | nil => exact ⟨[], [], by simp, by simp [bracketed]⟩
  | cons line lines =>
    refine ⟨['\n'], '\n' :: indent.toList, fun blank => ⟨rfl, by simpa [isSpace] using blank⟩, ?_⟩
    simp only [bracketed, List.isEmpty_cons, Bool.false_eq_true, if_false, String.toList_append,
      String.toList_intercalate, List.map_map, Function.comp_def, List.append_assoc]
    rfl

private theorem forall₂_indent {gap : List Char} (spaces : gap.all isSpace) {lines : List String}
    {parts : List (List Token)} (each : List.Forall₂ Spells (lines.map String.toList) parts) :
    List.Forall₂ Spells (lines.map fun line => gap ++ line.toList) parts := by
  rw [List.forall₂_map_left_iff] at each ⊢
  exact each.imp fun _ _ spelled => .blanks spaces spelled

private theorem all_isSpace_indent {indent : String} (blank : indent.toList.all isSpace) :
    (indent ++ "  ").toList.all isSpace := by
  simp_all [isSpace]

mutual

theorem spells_prettyAt {indent : String} (blank : indent.toList.all isSpace) : (json : Json) →
    isPlain json → Spells (prettyAt indent json).toList (spelling json)
  | .null, _ => spells_null
  | .bool truth, _ => spells_bool truth
  | .number _, plain => spells_number plain
  | .string (some text), _ => spells_quote text
  | .array items, plain => by
    rw [isPlain] at plain
    have deeper := all_isSpace_indent blank
    obtain ⟨lead, trail, blanks, printed⟩ :=
      toList_bracketed indent "[" "]" (prettyAll (indent ++ "  ") items)
    have each := forall₂_indent deeper (spells_prettyAll deeper items plain)
    rw [String.toList_append] at each
    rw [prettyAt, printed]
    exact spells_array (blanks blank).1 rfl (blanks blank).2 each
  | .object fields, plain => by
    rw [isPlain] at plain
    have deeper := all_isSpace_indent blank
    obtain ⟨lead, trail, blanks, printed⟩ :=
      toList_bracketed indent "\x7b" "\x7d" (prettyFields (indent ++ "  ") fields)
    have each := forall₂_indent deeper (spells_prettyFields deeper fields plain)
    rw [String.toList_append] at each
    rw [prettyAt, printed]
    exact spells_object (blanks blank).1 rfl (blanks blank).2 each

theorem spells_prettyAll {indent : String} (blank : indent.toList.all isSpace) :
    (items : List Json) → arePlain items →
    List.Forall₂ Spells ((prettyAll indent items).map String.toList) (spellings items)
  | [], _ => .nil
  | item :: items, plain => by
    rw [arePlain, Bool.and_eq_true] at plain
    exact .cons (spells_prettyAt blank item plain.1) (spells_prettyAll blank items plain.2)

theorem spells_prettyFields {indent : String} (blank : indent.toList.all isSpace) :
    (fields : List (Option String × Json)) → arePlainFields fields →
    List.Forall₂ Spells ((prettyFields indent fields).map String.toList) (fieldSpellings fields)
  | [], _ => .nil
  | field :: fields, plain => by
    rw [arePlainFields, Bool.and_eq_true] at plain
    exact .cons (spells_prettyField blank field plain.1)
      (spells_prettyFields blank fields plain.2)

theorem spells_prettyField {indent : String} (blank : indent.toList.all isSpace) :
    (field : Option String × Json) → isPlainField field →
    Spells (prettyField indent field).toList (fieldSpelling field)
  | (some key, item), plain => by
    rw [isPlainField, Bool.and_eq_true] at plain
    have spelled := @spells_field key [' '] _ rfl item (spells_prettyAt blank item plain.2)
    simpa [prettyField] using spelled

end

private theorem ofText?_of_spells {text : String} {json : Json}
    (spelled : Spells text.toList (spelling json)) : ofText? text = some json := by
  have whole := spelled [] (by intro _ member; cases member)
  have read := @ofTokens_spelling json [] [] (.nothing json) rfl []
  rw [List.append_nil] at whole read
  rw [ofText?, whole]
  simpa [tokens, ofTokens] using read

/-- A plain document is read back from its text on one line. -/
theorem ofText?_compact {json : Json} (plain : isPlain json) :
    ofText? (compact json) = some json :=
  ofText?_of_spells (spells_compact json plain)

/-- A plain document is read back from its text over several lines. -/
theorem ofText?_pretty {json : Json} (plain : isPlain json) : ofText? (pretty json) = some json :=
  ofText?_of_spells (spells_prettyAt (by simp) json plain)

end ScriptHost.Json
