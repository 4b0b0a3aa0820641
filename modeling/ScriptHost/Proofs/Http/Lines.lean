import ScriptHost.Http.Source
import ScriptHost.Proofs.Text.Encoding

/-! The bytes that lines are read from. A line is taken off a source exactly if the source starts
with its bytes and the budget covers them. -/
namespace ScriptHost.Http

open Text (toBytes)

/-- The source that starts with the given bytes and goes on like the rest. -/
def Source.behind (rest : Source) (front : Bytes) : Source := ⟨front ++ rest.bytes, rest.ending⟩

@[simp] theorem Source.behind_nil (rest : Source) : rest.behind [] = rest := rfl

theorem Source.behind_append (rest : Source) (front back : Bytes) :
    rest.behind (front ++ back) = (rest.behind back).behind front := by
  simp [behind]

/-- A text without line feeds and its terminator. A bare line feed ends it only if the text does not
end with a carriage return, which would count as part of the terminator. -/
inductive LineBytes (text : String) : Bytes → Prop where
  | bare (single : 10 ∉ toBytes text) (plain : (toBytes text).getLast? ≠ some 13) :
      LineBytes text (toBytes text ++ [10])
  | returned (single : 10 ∉ toBytes text) : LineBytes text (toBytes text ++ [13, 10])

/-- The bytes of one line after the other. -/
inductive Lines : List String → Bytes → Prop where
  | nil : Lines [] []
  | cons (line : LineBytes text front) (lines : Lines texts back) :
      Lines (text :: texts) (front ++ back)

theorem LineBytes.length_pos (line : LineBytes text bytes) : 0 < bytes.length := by
  cases line <;> simp

theorem Lines.append (first : Lines front frontBytes) (second : Lines back backBytes) :
    Lines (front ++ back) (frontBytes ++ backBytes) := by
  induction first with
  | nil => exact second
  | cons line _ ih =>
    rw [List.append_assoc]
    exact .cons line ih

theorem Lines.cut (lines : Lines (front ++ back) bytes) :
    ∃ frontBytes backBytes, Lines front frontBytes ∧ Lines back backBytes ∧
      bytes = frontBytes ++ backBytes := by
  induction front generalizing bytes with
  | nil => exact ⟨[], bytes, .nil, lines, rfl⟩
  | cons text front ih =>
    obtain _ | ⟨line, more⟩ := lines
    obtain ⟨middle, rest, inFront, behind, rfl⟩ := ih more
    exact ⟨_, rest, .cons line inFront, behind, by simp⟩

/-- The lines as they are written, each ended by a carriage return and a line feed. -/
def crlf (texts : List String) : Bytes := texts.flatMap fun text => toBytes text ++ [13, 10]

theorem lines_crlf {texts : List String} (single : ∀ text ∈ texts, 10 ∉ toBytes text) :
    Lines texts (crlf texts) := by
  induction texts with
  | nil => exact .nil
  | cons text texts ih =>
    obtain ⟨first, rest⟩ := List.forall_mem_cons.mp single
    exact .cons (.returned first) (ih rest)

theorem cutLine_eq_line_iff {budget : Nat} {read bytes content rest : Bytes} :
    cutLine budget read bytes = .line content rest ↔
      ∃ front, content = read.reverse ++ front ∧ bytes = front ++ 10 :: rest ∧ 10 ∉ front ∧
        front.length < budget := by
  induction bytes generalizing budget read with
  | nil => cases budget <;> simp [cutLine]
  | cons byte bytes ih =>
    cases budget with
    | zero => simp [cutLine]
    | succ budget =>
      rw [cutLine]
      by_cases feed : byte = 10
      · subst feed
        rw [if_pos rfl, LineCut.line.injEq]
        constructor
        · intro cut
          obtain ⟨rfl, rfl⟩ := cut
          exact ⟨[], by simp⟩
        · intro cut
          obtain ⟨front, rfl, split, absent, _⟩ := cut
          cases front with
          | nil => simpa using split
          | cons first front => simp_all
      · rw [if_neg feed, ih]
        constructor
        · intro cut
          obtain ⟨front, rfl, rfl, absent, fits⟩ := cut
          exact ⟨byte :: front, by simp, rfl, by simp [absent, Ne.symm feed], by simpa using fits⟩
        · intro cut
          obtain ⟨front, rfl, split, absent, fits⟩ := cut
          cases front with
          | nil => exact absurd (List.cons.inj split).1 feed
          | cons first front =>
            obtain ⟨rfl, rfl⟩ := List.cons.inj split
            have inside : 10 ∉ front := fun member => absent (List.mem_cons_of_mem _ member)
            exact ⟨front, by simp, rfl, inside, by simpa using fits⟩

theorem dropReturn_of_last {content : Bytes} (last : content.getLast? = some 13) :
    content = dropReturn content ++ [13] := by
  obtain ⟨front, rfl⟩ := List.getLast?_eq_some_iff.mp last
  rw [dropReturn, if_pos last, List.dropLast_concat]

theorem lineBytes_iff {text : String} {bytes : Bytes} :
    LineBytes text bytes ↔
      ∃ content, dropReturn content = toBytes text ∧ 10 ∉ content ∧ bytes = content ++ [10] := by
  constructor
  · intro line
    cases line with
    | bare single plain => exact ⟨toBytes text, if_neg plain, single, rfl⟩
    | returned single =>
      refine ⟨toBytes text ++ [13], ?_, by simp [single], by simp⟩
      rw [dropReturn, if_pos (by simp), List.dropLast_concat]
  · intro cut
    obtain ⟨content, dropped, single, rfl⟩ := cut
    by_cases last : content.getLast? = some 13
    · have whole := dropReturn_of_last last
      rw [dropped] at whole
      subst whole
      rw [List.append_assoc]
      exact .returned fun member => single (List.mem_append_left _ member)
    · rw [dropReturn, if_neg last] at dropped
      subst dropped
      exact .bare single last

theorem Source.line?_eq_some_iff {source : Source} {budget : Nat} {line : Line} :
    source.line? budget = .ok (some line) ↔
      ∃ bytes, LineBytes line.text bytes ∧ source = line.rest.behind bytes ∧
        line.budget + bytes.length = budget := by
  constructor
  · intro found
    unfold line? at found
    split at found
    · rename_i content rest cut
      obtain ⟨front, same, split, single, fits⟩ := cutLine_eq_line_iff.mp cut
      obtain rfl : content = front := same
      split at found
      · rename_i text decoded
        obtain rfl := Option.some.inj (Except.ok.inj found)
        refine ⟨content ++ [10], ?_, ?_, ?_⟩
        · exact lineBytes_iff.mpr ⟨content, Text.ofBytes?_eq_some_iff.mp decoded, single, rfl⟩
        · simp [behind, ← split]
        · rw [List.length_append, List.length_singleton]
          exact Nat.sub_add_cancel fits
      · contradiction
    · contradiction
    · split at found
      · contradiction
      · split at found <;> cases found
  · intro cut
    obtain ⟨bytes, spelled, rfl, paid⟩ := cut
    obtain ⟨content, dropped, single, rfl⟩ := lineBytes_iff.mp spelled
    rw [List.length_append, List.length_singleton] at paid
    have cut : cutLine budget [] (line.rest.behind (content ++ [10])).bytes =
        .line content line.rest.bytes := by
      refine cutLine_eq_line_iff.mpr ⟨content, rfl, ?_, single, by omega⟩
      simp [behind]
    rw [line?, cut]
    simp only [Text.ofBytes?_eq_some_iff.mpr dropped]
    have left : budget - (content.length + 1) = line.budget := by omega
    rw [left]
    rfl

/-- A line is read exactly off its bytes, within the budget. -/
theorem Source.line_eq_ok_iff {source : Source} {budget : Nat} {missing : RequestFault}
    {line : Line} :
    source.line budget missing = .ok line ↔
      ∃ bytes, LineBytes line.text bytes ∧ source = line.rest.behind bytes ∧
        line.budget + bytes.length = budget := by
  rw [← line?_eq_some_iff, Source.line]
  split
  · rename_i taken found
    rw [found, Except.ok.injEq, Except.ok.injEq, Option.some.injEq]
  · rename_i found
    simp [found]
  · rename_i found
    simp [found]

theorem Source.line_behind {text : String} {front : Bytes} (line : LineBytes text front)
    (rest : Source) (budget : Nat) (missing : RequestFault) :
    (rest.behind front).line (budget + front.length) missing = .ok ⟨text, budget, rest⟩ :=
  line_eq_ok_iff.mpr ⟨front, line, rfl, rfl⟩

/-- A block of a given length is read exactly off its bytes. -/
theorem Source.exactly_eq_ok_iff {source rest : Source} {count : Nat} {block : Bytes} :
    source.exactly count = .ok (block, rest) ↔
      block.length = count ∧ source = rest.behind block := by
  rw [exactly]
  constructor
  · intro found
    split at found
    · rename_i enough
      obtain ⟨rfl, rfl⟩ := Prod.mk.inj (Except.ok.inj found)
      exact ⟨List.length_take_of_le enough, by simp [behind]⟩
    · split at found <;> contradiction
  · intro cut
    obtain ⟨rfl, rfl⟩ := cut
    rw [if_pos (by simp [behind])]
    simp [behind]

end ScriptHost.Http
