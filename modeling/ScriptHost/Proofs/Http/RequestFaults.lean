import ScriptHost.Error.Builtin
import ScriptHost.Proofs.Http.ChunkedFraming

/-! Nothing that can go wrong with reading a request is the fault of the program: either the peer
sent something else or the system failed. A stream that is closed fails nowhere but within a
body. -/
namespace ScriptHost.Http

universe u v

variable {α : Type u} {β : Type v} {result : Except HostError α}

/-- What a step that reads from a peer comes to. -/
inductive FailsOutside : Except HostError α → Prop where
  | ok (value : α) : FailsOutside (.ok value)
  | malformed (fault : RequestFault) : FailsOutside (.error (.malformedRequest fault))
  | io (operation : Operation) (cause : IoCause) : FailsOutside (.error (.io operation cause))

theorem FailsOutside.kind_eq_io (step : FailsOutside result) (failed : result = .error error) :
    (BuiltinError.host error).kind = .io := by
  subst failed
  cases step <;> rfl

/-- What such a step comes to, by what follows the last byte. -/
inductive FailsAt : Ending → Except HostError α → Prop where
  | ok (value : α) : FailsAt ending (.ok value)
  | malformed (fault : RequestFault) : FailsAt ending (.error (.malformedRequest fault))
  | ended : FailsAt .closed (.error (.io .readBody .endedEarly))
  | failed (operation : Operation) (cause : IoCause) :
      FailsAt (.failed cause) (.error (.io operation cause))

namespace FailsAt

variable {ending : Ending}

theorem outside (step : FailsAt ending result) : FailsOutside result := by
  cases step with
  | ok value => exact .ok value
  | malformed fault => exact .malformed fault
  | ended => exact .io .readBody .endedEarly
  | failed operation cause => exact .io operation cause

/-- A failure is passed on by what is done behind it. -/
theorem of_error (step : FailsAt ending result) (failed : result = .error error) :
    FailsAt ending (.error error : Except HostError β) := by
  subst failed
  cases step with
  | malformed fault => exact .malformed fault
  | ended => exact .ended
  | failed operation cause => exact .failed operation cause

theorem map (step : FailsAt ending result) (change : α → β) :
    FailsAt ending (result.map change) := by
  cases found : result with
  | ok value => exact .ok _
  | error error => exact step.of_error found

theorem bind {α β : Type u} {result : Except HostError α} (step : FailsAt ending result)
    {next : α → Except HostError β}
    (rest : ∀ value, result = .ok value → FailsAt ending (next value)) :
    FailsAt ending (result >>= next) := by
  cases found : result with
  | ok value => exact rest value found
  | error error => exact step.of_error found

theorem ite {condition : Prop} [Decidable condition] {first second : Except HostError α}
    (yes : FailsAt ending first) (no : FailsAt ending second) :
    FailsAt ending (if condition then first else second) := by
  split <;> assumption

end FailsAt

namespace Source

theorem ending_of_line {source : Source} {budget : Nat} {missing : RequestFault} {line : Line}
    (found : source.line budget missing = .ok line) : line.rest.ending = source.ending := by
  obtain ⟨bytes, _, rfl, _⟩ := line_eq_ok_iff.mp found
  rfl

theorem failsAt_line? (source : Source) (budget : Nat) :
    FailsAt source.ending (source.line? budget) := by
  rw [line?]
  split
  · split
    · exact .ok _
    · exact .malformed _
  · exact .malformed _
  · split
    · rename_i cause failed
      rw [failed]
      exact .failed _ cause
    · exact .ite (.ok _) (.malformed _)

theorem failsAt_line (source : Source) (budget : Nat) (missing : RequestFault) :
    FailsAt source.ending (source.line budget missing) := by
  rw [line]
  split
  · exact .ok _
  · exact .malformed _
  · exact (source.failsAt_line? budget).of_error ‹_›

theorem failsAt_exactly (source : Source) (count : Nat) :
    FailsAt source.ending (source.exactly count) := by
  rw [exactly]
  refine .ite (.ok _) ?_
  cases source.ending with
  | closed => exact .ended
  | failed cause => exact .failed _ cause

end Source

theorem failsAt_skipTrailers (budget : Nat) (source : Source) :
    FailsAt source.ending (skipTrailers budget source) := by
  fun_induction skipTrailers budget source with
  | case1 budget source error failed => exact (source.failsAt_line budget _).of_error failed
  | case2 => exact .ok _
  | case3 budget source line found more ih => exact Source.ending_of_line found ▸ ih

theorem failsAt_chunkSize (ending : Ending) (line : String) : FailsAt ending (chunkSize line) := by
  delta chunkSize
  dsimp only
  split
  · exact .ok _
  · exact .malformed _

theorem failsAt_chunkData (size : Nat) (source : Source) :
    FailsAt source.ending (chunkData size source) := by
  rw [chunkData]
  split
  · exact (source.failsAt_exactly size).of_error ‹_›
  · rename_i data afterData found
    obtain ⟨_, rfl⟩ := Source.exactly_eq_ok_iff.mp found
    split
    · exact (afterData.failsAt_exactly 2).of_error ‹_›
    · exact .ite (.ok _) (.malformed _)

theorem failsAt_nextChunk (limits : Limits) (total : Nat) (source : Source) :
    FailsAt source.ending (nextChunk limits total source) := by
  rw [nextChunk]
  split
  · exact (source.failsAt_line _ _).of_error ‹_›
  · rename_i line found
    rw [← Source.ending_of_line found]
    split
    · exact (failsAt_chunkSize _ line.text).of_error ‹_›
    · exact .ite ((failsAt_skipTrailers _ line.rest).map _)
        (.ite (.malformed _) ((failsAt_chunkData _ line.rest).map _))

theorem failsAt_chunks (limits : Limits) (total : Nat) (source : Source) :
    FailsAt source.ending (chunks limits total source) := by
  fun_induction chunks limits total source with
  | case1 total source error failed => exact (failsAt_nextChunk limits total source).of_error failed
  | case2 => exact .ok _
  | case3 total source data rest found ih =>
    obtain ⟨_, _, _, _, rfl⟩ := nextChunk_eq_some_iff.mp found
    exact ih.map _

theorem failsAt_readBody (headers : Headers) (limits : Limits) (source : Source) :
    FailsAt source.ending (readBody headers limits source) := by
  rw [readBody]
  split
  · exact .ite (failsAt_chunks limits 0 source) (.malformed _)
  · split
    · exact .ok _
    · split
      · exact .malformed _
      · exact .ite (.malformed _) (source.failsAt_exactly _)

theorem failsAt_firstLine (budget : Nat) (source : Source) :
    FailsAt source.ending (firstLine budget source) := by
  fun_induction firstLine budget source with
  | case1 budget source error failed => exact (source.failsAt_line budget _).of_error failed
  | case2 budget source line found blank ih => exact Source.ending_of_line found ▸ ih
  | case3 => exact .ok _

theorem failsAt_requestLine (ending : Ending) (line : String) :
    FailsAt ending (RequestLine.ofText line) := by
  have version : ∀ text, FailsAt ending (Version.ofText text) := fun _ =>
    .ite (.ok _) (.ite (.ok _) (.malformed _))
  rw [RequestLine.ofText]
  split
  · exact .malformed _
  · exact .ite (.malformed _) (.ite (.malformed _) ((version _).map _))

theorem failsAt_addLine (ending : Ending) (headers : Headers) (line : String) :
    FailsAt ending (headers.addLine line) := by
  rw [Headers.addLine]
  refine .ite (.malformed _) ?_
  split
  · exact .malformed _
  · exact .ite (.ok _) (.malformed _)

theorem failsAt_readHeaders (headers : Headers) (budget : Nat) (source : Source) :
    FailsAt source.ending (readHeaders headers budget source) := by
  fun_induction readHeaders headers budget source with
  | case1 headers budget source error failed =>
    exact (source.failsAt_line budget _).of_error failed
  | case2 => exact .ok _
  | case3 headers budget source line found more error failed =>
    exact (failsAt_addLine _ headers line.text).of_error failed
  | case4 headers budget source line found more added taken ih =>
    exact Source.ending_of_line found ▸ ih

/-- A request that cannot be read is malformed, or the stream ends before its body does: because it
is closed, or because the system fails. -/
theorem failsAt_readRequest (limits : Limits) (source : Source) :
    FailsAt source.ending (readRequest limits source) := by
  refine (failsAt_firstLine _ source).bind fun line first => ?_
  obtain ⟨_, _, _, _, rfl, _⟩ := firstLine_eq_ok_iff.mp first
  refine (failsAt_requestLine _ line.text).bind fun requestLine _ => ?_
  refine (failsAt_readHeaders _ _ line.rest).bind fun head second => ?_
  obtain ⟨headers, afterHead⟩ := head
  obtain ⟨_, _, _, _, _, behind, _⟩ := readHeaders_eq_ok_iff.mp second
  rw [behind]
  refine (failsAt_readBody headers limits afterHead).bind fun body _ => ?_
  exact .ok _

theorem failsOutside_readRequest (limits : Limits) (source : Source) :
    FailsOutside (readRequest limits source) := (failsAt_readRequest limits source).outside

end ScriptHost.Http
