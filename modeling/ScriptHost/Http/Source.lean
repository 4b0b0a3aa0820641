import ScriptHost.Error.Host
import ScriptHost.Text.Utf8

/-!
What a peer sends: bytes, and then the end of the stream or a failure. Lines and blocks are taken
off the front; a line is charged to a budget. Main statements: a line leaves fewer bytes and less
budget behind.
-/
namespace ScriptHost.Http

/-- What comes after the last byte. -/
inductive Ending where
  | closed
  | failed (cause : IoCause)
  deriving DecidableEq, Repr

/-- Bytes still to be read and what comes after them. -/
structure Source where
  bytes : Bytes
  ending : Ending := .closed
  deriving Repr

/-- How the search for the end of a line ends. -/
inductive LineCut where
  | line (content rest : Bytes)
  /-- Another byte than the budget allows would have to be read. -/
  | tooLong
  /-- The bytes end first; `content` is what was there. -/
  | ended (content : Bytes)
  deriving Repr

/-- Look for the next line feed, reading at most `budget` bytes; `content` holds those read so far
in reverse. -/
def cutLine : (budget : Nat) → (content : Bytes) → Bytes → LineCut
  | _, content, [] => .ended content.reverse
  | 0, _, _ :: _ => .tooLong
  | budget + 1, content, byte :: rest =>
    if byte = 10 then .line content.reverse rest else cutLine budget (byte :: content) rest
  termination_by structural _ _ bytes => bytes

theorem length_of_cutLine {budget : Nat} {read bytes content rest : Bytes}
    (found : cutLine budget read bytes = .line content rest) :
    read.length + bytes.length = content.length + 1 + rest.length ∧
      content.length + 1 ≤ budget + read.length := by
  induction bytes generalizing budget read with
  | nil => cases budget <;> simp [cutLine] at found
  | cons byte bytes ih =>
    cases budget with
    | zero => simp [cutLine] at found
    | succ budget =>
      rw [cutLine] at found
      split at found
      · simp only [LineCut.line.injEq] at found
        simp only [← found.1, ← found.2, List.length_reverse, List.length_cons]; omega
      · have := ih found
        simp only [List.length_cons] at this ⊢; omega

/-- Drop one carriage return at the end. -/
def dropReturn (content : Bytes) : Bytes :=
  if content.getLast? = some 13 then content.dropLast else content

/-- A line without its terminator, the budget it leaves, and what follows it. -/
structure Line where
  text : String
  budget : Nat
  rest : Source

namespace Source

/-- Take a line off the front, if any byte is there at all. -/
def line? (source : Source) (budget : Nat) : Except HostError (Option Line) :=
  match cutLine budget [] source.bytes with
  | .line content rest =>
    match Text.ofBytes? (dropReturn content) with
    | some text => .ok (some ⟨text, budget - (content.length + 1), { source with bytes := rest }⟩)
    | none => .error (.malformedRequest .headNotUtf8)
  | .tooLong => .error (.malformedRequest .headTooLarge)
  | .ended content =>
    match source.ending with
    | .failed cause => .error (.io .readRequest cause)
    | .closed =>
      if content.isEmpty then .ok none else .error (.malformedRequest .closedMidLine)

/-- Take a line off the front; `missing` is what is wrong when no byte is left. -/
def line (source : Source) (budget : Nat) (missing : RequestFault) : Except HostError Line :=
  match source.line? budget with
  | .ok (some line) => .ok line
  | .ok none => .error (.malformedRequest missing)
  | .error error => .error error

/-- Take exactly so many bytes off the front. -/
def exactly (source : Source) (count : Nat) : Except HostError (Bytes × Source) :=
  if count ≤ source.bytes.length then
    .ok (source.bytes.take count, { source with bytes := source.bytes.drop count })
  else match source.ending with
    | .closed => .error (.io .readBody .endedEarly)
    | .failed cause => .error (.io .readBody cause)

theorem shrinks_of_line {source : Source} {budget : Nat} {missing : RequestFault} {line : Line}
    (found : source.line budget missing = .ok line) :
    line.budget < budget ∧ line.rest.bytes.length < source.bytes.length := by
  unfold Source.line at found
  split at found
  · rename_i taken present
    simp only [Except.ok.injEq] at found
    subst found
    unfold line? at present
    split at present
    · rename_i content rest cut
      have := length_of_cutLine cut
      simp only [List.length_nil] at this
      split at present
      · simp only [Except.ok.injEq, Option.some.injEq] at present
        simp only [← present]; omega
      · contradiction
    · contradiction
    · split at present
      · contradiction
      · split at present <;> simp at present
  · contradiction
  · contradiction

theorem length_of_exactly {source rest : Source} {count : Nat} {block : Bytes}
    (found : source.exactly count = .ok (block, rest)) :
    rest.bytes.length + count = source.bytes.length := by
  unfold exactly at found
  split at found
  · simp only [Except.ok.injEq, Prod.mk.injEq] at found
    simp only [← found.2, List.length_drop]; omega
  · split at found <;> contradiction

end Source

end ScriptHost.Http
