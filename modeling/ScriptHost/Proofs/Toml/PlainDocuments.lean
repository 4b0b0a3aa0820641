import ScriptHost.Proofs.Toml.Lines
import ScriptHost.Proofs.Toml.Paths

/-! Plain documents: each line gives a value to a bare key, some in front of all sections and the others
in a section. If no key is given twice the document is read as the table that it shows. -/
namespace ScriptHost.Toml

/-- A key with its value and how the value is written. -/
structure Line where
  name : String
  spelling : String
  value : Toml

namespace Line

def text (line : Line) : String := line.name ++ " = " ++ line.spelling ++ "\n"

def statement (line : Line) : Statement := .assignment ⟨[], line.name⟩ line.value

def entry (line : Line) : String × Toml := (line.name, line.value)

structure WellFormed (line : Line) : Prop where
  bare : IsBare line.name
  spells : SpellsValue line.spelling.toList line.value

/-- The line of a text. -/
def quoted (name text : String) : Line :=
  ⟨name, String.ofList (quote text.toList), .string text⟩

/-- The line of a number. -/
def natural (name : String) (number : Nat) : Line := ⟨name, toString number, .integer number⟩

/-- The line of a truth value. -/
def truth (name : String) (truth : Bool) : Line :=
  ⟨name, if truth then "true" else "false", .boolean truth⟩

variable {name : String}

theorem wellFormed_quoted (bare : IsBare name) (text : String) : (quoted name text).WellFormed where
  bare := bare
  spells := by
    have spells := spellsValue_quote text.toList
    rw [String.ofList_toList] at spells
    rwa [quoted, String.toList_ofList]

theorem wellFormed_natural (bare : IsBare name) {number : Nat} (small : number < 2 ^ 63) :
    (natural name number).WellFormed := ⟨bare, spellsValue_toString small⟩

theorem wellFormed_truth (bare : IsBare name) (holds : Bool) : (truth name holds).WellFormed :=
  ⟨bare, spellsValue_bool holds⟩

end Line

/-- The lines under a header of one bare key. -/
structure Section where
  name : String
  lines : List Line

namespace Section

def text (part : Section) : String :=
  "[" ++ part.name ++ "]\n" ++ String.join (part.lines.map Line.text)

def statements (part : Section) : List Statement :=
  .header ⟨[], part.name⟩ :: part.lines.map Line.statement

def entry (part : Section) : String × Toml :=
  (part.name, .table .header (part.lines.map Line.entry))

/-- Every line is, and no key is given twice. -/
structure WellFormed (part : Section) : Prop where
  bare : IsBare part.name
  lines : ∀ line ∈ part.lines, line.WellFormed
  distinct : (part.lines.map Line.name).Nodup

end Section

/-- Lines in front of all sections, and the sections. -/
structure Plain where
  lines : List Line
  sections : List Section

namespace Plain

/-- What stands between empty lines. -/
def blocks (document : Plain) : List String :=
  (if document.lines.isEmpty then [] else [String.join (document.lines.map Line.text)]) ++
    document.sections.map Section.text

def text (document : Plain) : String := "\n".intercalate document.blocks

def statements (document : Plain) : List Statement :=
  document.lines.map Line.statement ++ document.sections.flatMap Section.statements

def entries (document : Plain) : Entries :=
  document.lines.map Line.entry ++ document.sections.map Section.entry

/-- All parts are, and no key or section is given twice. -/
structure WellFormed (document : Plain) : Prop where
  lines : ∀ line ∈ document.lines, line.WellFormed
  sections : ∀ part ∈ document.sections, part.WellFormed
  distinct : (document.lines.map Line.name ++ document.sections.map Section.name).Nodup

end Plain

/-! The table. -/

namespace Entries

variable {entries : Entries} {key : String}

theorem find?_eq_none_iff : entries.find? key = none ↔ key ∉ entries.map Prod.fst := by
  rw [find?, List.lookup_eq_none_iff]
  simp only [bne_iff_ne, List.mem_map, not_exists, not_and]
  exact ⟨fun missing entry member same => missing entry member same.symm,
    fun missing entry member same => missing entry member same.symm⟩

theorem set_append_of_missing (missing : entries.find? key = none) (value : Toml) (rest : Entries) :
    set key value (entries ++ rest) = entries ++ set key value rest := by
  induction entries with
  | nil => rfl
  | cons entry entries ih =>
    rw [find?_cons] at missing
    split_ifs at missing with same
    rw [List.cons_append, set, if_neg (by simpa using Ne.symm same), ih missing, List.cons_append]

theorem find?_append_of_missing (missing : entries.find? key = none) (rest : Entries) :
    find? (entries ++ rest) key = find? rest key := by
  rw [find?, List.lookup_append, ← find?, missing, Option.none_or, ← find?]

end Entries

namespace Draft

variable {entries : Entries}

theorem assign?_of_missing {line : Line} (missing : entries.find? line.name = none) :
    (⟨.header, entries⟩ : Table).assign? ⟨[], line.name⟩ line.value =
      some ⟨.header, entries ++ [line.entry]⟩ := by
  have appended := Entries.set_append_of_missing missing line.value []
  rw [List.append_nil] at appended
  rw [Table.assign?, Table.change?, if_neg (by simp), missing, if_neg (by simp), Table.set, appended]
  rfl

/-- Assignments to different keys are taken in where a single one is. -/
theorem foldlM_lines {lines : List Line} {draft : Entries → Draft}
    (takes : ∀ (entries : Entries) (line : Line), entries.find? line.name = none →
      (draft entries).add? line.statement = some (draft (entries ++ [line.entry])))
    (distinct : (entries.map Prod.fst ++ lines.map Line.name).Nodup) :
    (lines.map Line.statement).foldlM add? (draft entries) =
      some (draft (entries ++ lines.map Line.entry)) := by
  induction lines generalizing entries with
  | nil =>
    rw [List.map_nil, List.map_nil, List.append_nil]
    rfl
  | cons line lines ih =>
    have missing : entries.find? line.name = none := by
      refine Entries.find?_eq_none_iff.mpr fun member => ?_
      exact (List.nodup_append.mp distinct).2.2 _ member _ List.mem_cons_self rfl
    have later : ((entries ++ [line.entry]).map Prod.fst ++ lines.map Line.name).Nodup := by
      rwa [List.map_append, List.append_assoc]
    rw [List.map_cons, List.foldlM_cons, takes entries line missing]
    change (lines.map Line.statement).foldlM add? (draft (entries ++ [line.entry])) = _
    rw [ih later, List.append_assoc]
    rfl

/-- The draft in front of all sections. -/
def atStart (entries : Entries) : Draft := ⟨⟨.header, entries⟩, []⟩

theorem add?_atStart {line : Line} (missing : entries.find? line.name = none) :
    (atStart entries).add? line.statement = some (atStart (entries ++ [line.entry])) := by
  rw [Line.statement, add?, atStart, Table.change?, assign?_of_missing missing]
  rfl

/-- The draft in a section, behind entries of other names. -/
def inSection (before : Entries) (name : String) (entries : Entries) : Draft :=
  ⟨⟨.header, before ++ [(name, .table .header entries)]⟩, [name]⟩

variable {before : Entries} {name : String}

theorem add?_header (missing : before.find? name = none) (path : List String) :
    (⟨⟨.header, before⟩, path⟩ : Draft).add? (.header ⟨[], name⟩) =
      some (inSection before name []) := by
  have appended := Entries.set_append_of_missing missing (.table .header []) []
  rw [List.append_nil] at appended
  rw [add?, Table.change?, Table.openHeader?, missing, Table.set, appended]
  rfl

theorem add?_inSection (missing : before.find? name = none) {line : Line}
    (free : entries.find? line.name = none) :
    (inSection before name entries).add? line.statement =
      some (inSection before name (entries ++ [line.entry])) := by
  have found : Entries.find? (before ++ [(name, .table .header entries)]) name =
      some (.table .header entries) := by
    rw [Entries.find?_append_of_missing missing, Entries.find?_cons, if_pos rfl]
  have replaced (value : Toml) :
      Entries.set name value (before ++ [(name, .table .header entries)]) =
        before ++ [(name, value)] := by
    rw [Entries.set_append_of_missing missing, Entries.set, if_pos (beq_self_eq_true name)]
  rw [Line.statement, add?, inSection, Table.change?, found]
  simp only [TableOrigin.letsThrough, Table.change?, assign?_of_missing free]
  simp [Table.set, replaced]
  rfl

theorem foldlM_section {part : Section} (missing : before.find? part.name = none)
    (distinct : (part.lines.map Line.name).Nodup) (path : List String) :
    part.statements.foldlM add? ⟨⟨.header, before⟩, path⟩ =
      some ⟨⟨.header, before ++ [part.entry]⟩, [part.name]⟩ := by
  rw [Section.statements, List.foldlM_cons, add?_header missing]
  exact foldlM_lines (fun entries line => add?_inSection missing) (by simpa using distinct)

/-- Sections of different names are taken in one after another. -/
theorem foldlM_sections {sections : List Section}
    (wellFormed : ∀ part ∈ sections, part.WellFormed)
    (distinct : (before.map Prod.fst ++ sections.map Section.name).Nodup) (path : List String) :
    ∃ path', (sections.flatMap Section.statements).foldlM add? ⟨⟨.header, before⟩, path⟩ =
      some ⟨⟨.header, before ++ sections.map Section.entry⟩, path'⟩ := by
  induction sections generalizing before path with
  | nil =>
    rw [List.map_nil, List.append_nil]
    exact ⟨path, rfl⟩
  | cons part sections ih =>
    obtain ⟨first, others⟩ := List.forall_mem_cons.mp wellFormed
    have missing : before.find? part.name = none := by
      refine Entries.find?_eq_none_iff.mpr fun member => ?_
      exact (List.nodup_append.mp distinct).2.2 _ member _ List.mem_cons_self rfl
    have later : ((before ++ [part.entry]).map Prod.fst ++ sections.map Section.name).Nodup := by
      rwa [List.map_append, List.append_assoc]
    obtain ⟨path', added⟩ := ih others later [part.name]
    rw [List.append_assoc] at added
    refine ⟨path', ?_⟩
    rw [List.flatMap_cons, List.foldlM_append, foldlM_section missing first.distinct]
    exact added

end Draft

/-- The statements of a plain document build up the table that it shows. -/
theorem ofStatements?_plain {document : Plain} (wellFormed : document.WellFormed) :
    ofStatements? document.statements = some document.entries := by
  have names : (document.lines.map Line.entry).map Prod.fst = document.lines.map Line.name := by
    rw [List.map_map]
    rfl
  have lines : (document.lines.map Line.statement).foldlM Draft.add? {} =
      some (Draft.atStart (document.lines.map Line.entry)) :=
    Draft.foldlM_lines (fun _ _ => Draft.add?_atStart)
      (by simpa using (List.nodup_append.mp wellFormed.distinct).1)
  obtain ⟨path, sections⟩ := Draft.foldlM_sections wellFormed.sections
    (by rw [names]; exact wellFormed.distinct) []
  rw [ofStatements?, Plain.statements, List.foldlM_append, lines]
  change Option.map _ (document.sections.flatMap Section.statements |>.foldlM Draft.add?
    (Draft.atStart (document.lines.map Line.entry))) = _
  rw [Draft.atStart, sections]
  rfl

/-! The text. -/

theorem spellsLines_nil : SpellsLines [] [] := by
  intro rest
  rw [List.nil_append, show (fun more : List Statement => [] ++ more) = id from rfl, Option.map_id]
  rfl

theorem Line.WellFormed.spellsLines {line : Line} (wellFormed : line.WellFormed) :
    SpellsLines line.text.toList [line.statement] := by
  have same : line.text.toList =
      line.name.toList ++ " = ".toList ++ line.spelling.toList ++ ['\n'] := by
    simp [Line.text]
  rw [same]
  exact spellsLines_assignment wellFormed.bare wellFormed.spells

theorem spellsLines_lines {lines : List Line} (wellFormed : ∀ line ∈ lines, line.WellFormed) :
    SpellsLines (String.join (lines.map Line.text)).toList (lines.map Line.statement) := by
  rw [String.toList_join]
  induction lines with
  | nil => exact spellsLines_nil
  | cons line lines ih =>
    obtain ⟨first, others⟩ := List.forall_mem_cons.mp wellFormed
    exact first.spellsLines.append (ih others)

theorem Section.WellFormed.spellsLines {part : Section} (wellFormed : part.WellFormed) :
    SpellsLines part.text.toList part.statements := by
  have same : part.text.toList = '[' :: (part.name.toList ++ [']']) ++ ['\n'] ++
      (String.join (part.lines.map Line.text)).toList := by
    simp [Section.text]
  rw [same]
  exact (spellsLines_header wellFormed.bare).append (spellsLines_lines wellFormed.lines)

/-- Blocks with empty lines between them are read one after another. -/
theorem spellsLines_intercalate {blocks : List (String × List Statement)}
    (spells : ∀ block ∈ blocks, SpellsLines block.1.toList block.2) :
    SpellsLines ("\n".intercalate (blocks.map Prod.fst)).toList (blocks.flatMap Prod.snd) := by
  rw [String.toList_intercalate, List.map_map]
  induction blocks with
  | nil => exact spellsLines_nil
  | cons block blocks ih =>
    obtain ⟨first, others⟩ := List.forall_mem_cons.mp spells
    cases blocks with
    | nil => simpa using first
    | cons next blocks =>
      rw [List.map_cons, List.map_cons, List.intercalate_cons_cons]
      exact first.emptyLine.append (ih others)

theorem spellsLines_plain {document : Plain} (wellFormed : document.WellFormed) :
    SpellsLines document.text.toList document.statements := by
  let front : List (String × List Statement) :=
    if document.lines.isEmpty then []
    else [(String.join (document.lines.map Line.text), document.lines.map Line.statement)]
  let blocks := front ++ document.sections.map fun part => (part.text, part.statements)
  have texts : blocks.map Prod.fst = document.blocks := by
    simp only [blocks, front, Plain.blocks, List.map_append, List.map_map]
    split <;> rfl
  have statements : blocks.flatMap Prod.snd = document.statements := by
    simp only [blocks, front, Plain.statements, List.flatMap_append, List.flatMap_map]
    split
    · rename_i nothing
      rw [List.isEmpty_iff.mp nothing]
      rfl
    · rw [List.flatMap_singleton]
  rw [Plain.text, ← texts, ← statements]
  refine spellsLines_intercalate fun block member => ?_
  rcases List.mem_append.mp member with first | later
  · simp only [front] at first
    split at first
    · cases first
    · rw [List.mem_singleton.mp first]
      exact spellsLines_lines wellFormed.lines
  · obtain ⟨part, present, rfl⟩ := List.mem_map.mp later
    exact (wellFormed.sections part present).spellsLines

/-- No line begins with a byte order mark. -/
theorem readStatements_mark (rest : List Char) : readStatements ('\ufeff' :: rest) = none := by
  have full : nextLine? ('\ufeff' :: rest) = none := rfl
  have noKey : readStatement (skipBlanks ('\ufeff' :: rest)) = none := rfl
  rw [readStatements, full, noKey]
  rfl

theorem SpellsLines.skipMark {chars : List Char} {statements : List Statement}
    (spells : SpellsLines chars statements) : Toml.skipMark chars = chars := by
  rw [Toml.skipMark.eq_def]
  split
  · have read := spells.read
    rw [readStatements_mark] at read
    cases read
  · rfl

end ScriptHost.Toml
