import Mathlib
import ScriptHost.Http.Request
import ScriptHost.Proofs.Text.Cutting

/-! The header lines that are accepted and the map that they fill. Names are the same up to ASCII
case; the map holds the trimmed values of all lines with one name, joined in their order. -/
namespace ScriptHost.Http

open Text (equalIgnoringCase)

/-- A header line as it is sent, the value with its blanks. -/
structure Field where
  name : String
  value : String

namespace Field

def line (field : Field) : String := field.name ++ ":" ++ field.value

/-- The header has the name, in any mix of capitals and small letters. -/
def IsNamed (name : String) (field : Field) : Prop := equalIgnoringCase field.name name

instance (name : String) : DecidablePred (IsNamed name) :=
  fun field => inferInstanceAs (Decidable (equalIgnoringCase field.name name = true))

end Field

/-- The trimmed values that are sent under a name. -/
def valuesOf (name : String) (fields : List Field) : List String :=
  (fields.filter (Field.IsNamed name ·)).map fun field => Text.trim field.value

def joined : List String → Option String
  | [] => none
  | value :: values => some (", ".intercalate (value :: values))

def Headers.addField (headers : Headers) (field : Field) : Headers :=
  headers.add (canonicalName field.name) (Text.trim field.value)

/-- The map that header lines fill. -/
def Headers.ofFields (fields : List Field) : Headers := fields.foldl addField SortedMap.empty

private theorem toLower_eq_hyphen_iff {char : Char} : char.toLower = '-' ↔ char = '-' := by
  constructor
  · intro same
    by_cases capital : char.isUpper
    · have letter : char.toLower.isAlpha = true := by simp [Char.isAlpha, capital]
      rw [same] at letter
      contradiction
    · rwa [Char.toLower_eq_of_not_isUpper capital] at same
  · intro same
    subst same
    rfl

private theorem toLower_canonicalChars (atStart : Bool) (chars : List Char) :
    (canonicalChars atStart chars).map Char.toLower = chars.map Char.toLower := by
  induction chars generalizing atStart with
  | nil => rfl
  | cons char chars ih => cases atStart <;> simp [canonicalChars, ih]

private theorem canonicalChars_toLower (atStart : Bool) (chars : List Char) :
    canonicalChars atStart (chars.map Char.toLower) = canonicalChars atStart chars := by
  induction chars generalizing atStart with
  | nil => rfl
  | cons char chars ih =>
    have mark : (char.toLower == '-') = (char == '-') :=
      Bool.eq_iff_iff.mpr (by simpa using toLower_eq_hyphen_iff)
    cases atStart <;> simp [canonicalChars, ih, mark]

/-- Names have one canonical spelling exactly if they differ in ASCII case at most. -/
theorem canonicalName_eq_iff {first second : String} :
    canonicalName first = canonicalName second ↔ equalIgnoringCase first second := by
  rw [canonicalName, canonicalName, String.ofList_inj, equalIgnoringCase, beq_iff_eq]
  constructor
  · intro same
    rw [← toLower_canonicalChars true, same, toLower_canonicalChars]
  · intro same
    rw [← canonicalChars_toLower, same, canonicalChars_toLower]

theorem canonicalName_canonicalName (name : String) :
    canonicalName (canonicalName name) = canonicalName name := by
  rw [canonicalName_eq_iff, equalIgnoringCase, beq_iff_eq, canonicalName, String.toList_ofList]
  exact toLower_canonicalChars true name.toList

/-- What is held for a name after a further value. -/
private def also (held : Option String) (value : String) : Option String :=
  some (held.elim value (· ++ ", " ++ value))

private theorem find?_add_self (headers : Headers) (name value : String) :
    (headers.add name value).find? name = also (headers.find? name) value := by
  rw [Headers.add]
  split <;> simp_all [also]

theorem Headers.find?_add_of_ne (headers : Headers) {name other : String} (value : String)
    (different : other ≠ name) : (headers.add name value).find? other = headers.find? other := by
  have apart : compare other name ≠ .eq := Std.LawfulEqOrd.compare_eq_iff_eq.not.mpr different
  rw [Headers.add]
  split <;> exact SortedMap.find?_insert_of_ne headers _ apart

private theorem find?_foldl_addField (headers : Headers) (fields : List Field) (name : String) :
    (fields.foldl Headers.addField headers).find? (canonicalName name) =
      (valuesOf name fields).foldl also (headers.find? (canonicalName name)) := by
  induction fields generalizing headers with
  | nil => rfl
  | cons field fields ih =>
    rw [List.foldl_cons, ih, Headers.addField]
    by_cases named : field.IsNamed name
    · rw [← canonicalName_eq_iff.mpr named, find?_add_self, canonicalName_eq_iff.mpr named]
      simp [valuesOf, named]
    · have different : canonicalName name ≠ canonicalName field.name :=
        fun same => named (canonicalName_eq_iff.mp same.symm)
      rw [Headers.find?_add_of_ne _ _ different]
      simp [valuesOf, named]

private theorem foldl_also (value : String) (values : List String) :
    values.foldl also (some value) = joined (value :: values) := by
  induction values generalizing value with
  | nil => rfl
  | cons next values ih => exact ih (value ++ ", " ++ next)

/-- A map filled by header lines holds the joined values of each name. -/
theorem Headers.find?_ofFields (fields : List Field) (name : String) :
    (Headers.ofFields fields).find? (canonicalName name) = joined (valuesOf name fields) := by
  rw [ofFields, find?_foldl_addField, SortedMap.find?_empty]
  cases valuesOf name fields with
  | nil => rfl
  | cons value values => exact foldl_also value values

@[simp] theorem joined_eq_none_iff {values : List String} : joined values = none ↔ values = [] := by
  cases values <;> simp [joined]

theorem valuesOf_eq_nil_iff {name : String} {fields : List Field} :
    valuesOf name fields = [] ↔ ∀ field ∈ fields, ¬field.IsNamed name := by
  simp [valuesOf]

theorem joined_eq_some_iff {values : List String} {text : String} :
    joined values = some text ↔ values ≠ [] ∧ text = ", ".intercalate values := by
  cases values <;> simp [joined, eq_comm]

theorem valuesOf_append (name : String) (front back : List Field) :
    valuesOf name (front ++ back) = valuesOf name front ++ valuesOf name back := by
  simp [valuesOf]

theorem valuesOf_cons_of_named {name : String} {field : Field} (named : field.IsNamed name)
    (fields : List Field) :
    valuesOf name (field :: fields) = Text.trim field.value :: valuesOf name fields := by
  simp [valuesOf, named]

theorem valuesOf_cons_of_not_named {name : String} {field : Field} (other : ¬field.IsNamed name)
    (fields : List Field) : valuesOf name (field :: fields) = valuesOf name fields := by
  simp [valuesOf, other]

theorem cutAtChar?_eq_some_iff {mark : Char} {text front back : String} :
    cutAtChar? mark text = some (front, back) ↔
      text = front ++ String.singleton mark ++ back ∧ mark ∉ front.toList := by
  have spelled : text.toList = front.toList ++ mark :: back.toList ↔
      text = front ++ String.singleton mark ++ back := by
    rw [← String.toList_inj]
    simp
  rw [cutAtChar?, Option.map_eq_some_iff, ← spelled, ← Text.cutAt?_singleton_eq_some_iff]
  constructor
  · intro written
    obtain ⟨⟨front, back⟩, cut, same⟩ := written
    obtain ⟨rfl, rfl⟩ := Prod.mk.inj same
    simpa using cut
  · intro cut
    exact ⟨_, cut, by simp⟩

theorem mem_of_isToken {name : String} {char : Char} (token : isToken name)
    (member : char ∈ name.toList) : isTokenChar char := by
  rw [isToken, Bool.and_eq_true, List.all_eq_true] at token
  exact token.2 char member

theorem ne_empty_of_isToken {name : String} (token : isToken name) : name ≠ "" := by
  intro same
  subst same
  contradiction

theorem isTokenChar_space : isTokenChar ' ' = false := by decide

theorem isTokenChar_tab : isTokenChar '\t' = false := by decide

theorem isTokenChar_colon : isTokenChar ':' = false := by decide

theorem not_mem_of_isToken {name : String} {mark : Char} (token : isToken name)
    (other : isTokenChar mark = false) : mark ∉ name.toList := by
  intro member
  rw [mem_of_isToken token member] at other
  contradiction

private theorem not_startsWith_of_isToken {name rest start : String} {mark : Char}
    (token : isToken name) (other : isTokenChar mark = false) (single : start.toList = [mark]) :
    (name ++ rest).startsWith start = false := by
  rw [String.startsWith_string_eq_false_iff, single, String.toList_append]
  intro starts
  have nonempty : name.toList ≠ [] := by
    rw [Ne, String.toList_eq_nil_iff]
    exact ne_empty_of_isToken token
  obtain ⟨first, more, spelled⟩ := List.exists_cons_of_ne_nil nonempty
  have same : mark = first := by simpa [spelled] using starts
  exact not_mem_of_isToken token other (by simp [spelled, same])

/-- A line is added exactly if it is a name of token characters, a colon and a value. -/
theorem Headers.addLine_eq_ok_iff {headers more : Headers} {line : String} :
    headers.addLine line = .ok more ↔
      ∃ field : Field, isToken field.name ∧ line = field.line ∧ more = headers.addField field := by
  constructor
  · intro added
    rw [addLine] at added
    split at added
    · contradiction
    · split at added
      · contradiction
      · rename_i name value cut
        split at added
        · rename_i token
          exact ⟨⟨name, value⟩, token, (cutAtChar?_eq_some_iff.mp cut).1,
            (Except.ok.inj added).symm⟩
        · contradiction
  · intro written
    obtain ⟨field, token, rfl, rfl⟩ := written
    have space : field.line.startsWith " " = false := by
      rw [Field.line, String.append_assoc]
      exact not_startsWith_of_isToken token isTokenChar_space rfl
    have tab : field.line.startsWith "\t" = false := by
      rw [Field.line, String.append_assoc]
      exact not_startsWith_of_isToken token isTokenChar_tab rfl
    have cut : cutAtChar? ':' field.line = some (field.name, field.value) :=
      cutAtChar?_eq_some_iff.mpr ⟨rfl, not_mem_of_isToken token isTokenChar_colon⟩
    rw [addLine, space, tab, cut]
    simp [token, addField]

end ScriptHost.Http
