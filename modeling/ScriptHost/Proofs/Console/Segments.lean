import ScriptHost.Console
import ScriptHost.Proofs.Text.WellFormed

/-! The segments of a stream, cut behind each of its line feeds, and the line that a segment stands
for. -/
namespace ScriptHost.Console

open Text (WellFormed IsCharacter IsContinuation)

/-- The segments that a stream consists of. Each ends with its only line feed; one that is cut off
by the end of the stream has none, and is not empty. -/
inductive Segments : Bytes → List Bytes → Prop where
  | nil : Segments [] []
  | line (noFeed : 10 ∉ line) (behind : Segments rest segments) :
      Segments (line ++ 10 :: rest) ((line ++ [10]) :: segments)
  | cutOff (noFeed : 10 ∉ line) (some : line ≠ []) : Segments line [line]

theorem cutSegment_line {line : Bytes} (noFeed : 10 ∉ line) (rest : Bytes) :
    cutSegment (line ++ 10 :: rest) = (line ++ [10], rest) := by
  induction line with
  | nil => rfl
  | cons byte line ih =>
    obtain ⟨other, behind⟩ := not_or.mp (mt List.mem_cons.mpr noFeed)
    rw [List.cons_append, cutSegment, if_neg (Ne.symm other), ih behind]
    rfl

theorem cutSegment_cutOff {line : Bytes} (noFeed : 10 ∉ line) : cutSegment line = (line, []) := by
  induction line with
  | nil => rfl
  | cons byte line ih =>
    obtain ⟨other, behind⟩ := not_or.mp (mt List.mem_cons.mpr noFeed)
    rw [cutSegment, if_neg (Ne.symm other), ih behind]

/-- The first segment is what is cut off a stream, and the others are those of the rest. -/
theorem Segments.eq_cons {bytes : Bytes} {segments : List Bytes} (cut : Segments bytes segments)
    (some : bytes ≠ []) :
    ∃ more, segments = (cutSegment bytes).1 :: more ∧ Segments (cutSegment bytes).2 more := by
  cases cut with
  | nil => contradiction
  | line noFeed behind =>
    rw [cutSegment_line noFeed]
    exact ⟨_, rfl, behind⟩
  | cutOff noFeed _ =>
    rw [cutSegment_cutOff noFeed]
    exact ⟨[], rfl, .nil⟩

theorem exists_segments (bytes : Bytes) : ∃ segments, Segments bytes segments := by
  induction bytes with
  | nil => exact ⟨[], .nil⟩
  | cons byte rest ih =>
    obtain ⟨segments, cut⟩ := ih
    by_cases feed : byte = 10
    · subst feed
      exact ⟨_, .line List.not_mem_nil cut⟩
    · have longer {line : Bytes} (noFeed : 10 ∉ line) : 10 ∉ byte :: line := by
        simp [noFeed, Ne.symm feed]
      cases cut with
      | nil => exact ⟨_, .cutOff (longer List.not_mem_nil) (List.cons_ne_nil _ _)⟩
      | line noFeed behind => exact ⟨_, .line (longer noFeed) behind⟩
      | cutOff noFeed _ => exact ⟨_, .cutOff (longer noFeed) (List.cons_ne_nil _ _)⟩

theorem Segments.unique {bytes : Bytes} {segments others : List Bytes}
    (cut : Segments bytes segments) (cut' : Segments bytes others) : others = segments := by
  induction cut generalizing others with
  | nil =>
    generalize stream : ([] : Bytes) = bytes at cut'
    cases cut' with
    | nil => rfl
    | line => simp at stream
    | cutOff _ some => exact absurd stream.symm some
  | line noFeed _ ih =>
    obtain ⟨more, rfl, behind⟩ := cut'.eq_cons (by simp)
    rw [cutSegment_line noFeed] at behind ⊢
    rw [ih behind]
  | cutOff noFeed some =>
    obtain ⟨more, rfl, behind⟩ := cut'.eq_cons some
    rw [cutSegment_cutOff noFeed] at behind ⊢
    generalize stream : ([] : Bytes) = bytes at behind
    cases behind with
    | nil => rfl
    | line => simp at stream
    | cutOff _ some => exact absurd stream.symm some

/-- A segment without its line feed and one carriage return right in front of that. Nothing is
taken from a segment that has no line feed. -/
inductive LineOf : (segment line : Bytes) → Prop where
  | feed (noReturn : line.getLast? ≠ some 13) : LineOf (line ++ [10]) line
  | returned : LineOf (line ++ [13, 10]) line
  | cutOff (noFeed : line.getLast? ≠ some 10) : LineOf line line

theorem lineOf_stripLineEnd (segment : Bytes) : LineOf segment (stripLineEnd segment) := by
  rw [stripLineEnd]
  split
  · rename_i rest reversed
    rw [List.reverse_eq_iff.mp reversed, List.reverse_cons, List.reverse_cons, List.append_assoc]
    exact .returned
  · rename_i rest other reversed
    rw [List.reverse_eq_iff.mp reversed, List.reverse_cons]
    refine .feed fun returned => ?_
    obtain ⟨front, same⟩ := List.getLast?_eq_some_iff.mp returned
    have first : rest = 13 :: front.reverse := by simpa using congrArg List.reverse same
    exact other _ first
  · rename_i other other'
    refine .cutOff fun feed => ?_
    obtain ⟨front, rfl⟩ := List.getLast?_eq_some_iff.mp feed
    exact other' front.reverse (by simp)

theorem LineOf.wellFormed_iff {segment line : Bytes} (lineOf : LineOf segment line) :
    WellFormed line ↔ WellFormed segment := by
  have feed : WellFormed [10] := Text.wellFormed_singleton (by decide)
  cases lineOf with
  | feed => exact ⟨fun text => text.append feed, .of_append_ascii (by decide)⟩
  | returned =>
    have returned : WellFormed [13] := Text.wellFormed_singleton (by decide)
    exact ⟨fun text => text.append (returned.append feed), .of_append_ascii (by decide)⟩
  | cutOff => rfl

/-- What comes of reading a segment as text: that of its line, if it is text at all. -/
inductive TextOf (segment : Bytes) : Except IoCause String → Prop where
  | text (wellFormed : WellFormed segment) (lineOf : LineOf segment (Text.toBytes text)) :
      TextOf segment (.ok text)
  | undecodable (malformed : ¬WellFormed segment) : TextOf segment (.error .notUtf8)

theorem textOf_textOfSegment (segment : Bytes) : TextOf segment (textOfSegment segment) := by
  have lineOf := lineOf_stripLineEnd segment
  rw [textOfSegment]
  cases read : Text.ofBytes? (stripLineEnd segment) with
  | some text =>
    have same := Text.ofBytes?_eq_some_iff.mp read
    rw [same] at lineOf
    exact .text (lineOf.wellFormed_iff.mp (Text.wellFormed_encode _)) lineOf
  | none =>
    refine .undecodable fun wellFormed => ?_
    obtain ⟨chars, same⟩ := Text.wellFormed_iff_exists.mp (lineOf.wellFormed_iff.mpr wellFormed)
    have spelled : stripLineEnd segment = Text.toBytes (String.ofList chars) := by
      rw [same, Text.toBytes, String.toList_ofList]
    rw [spelled, Text.ofBytes?_toBytes] at read
    cases read

end ScriptHost.Console
