import ScriptHost.Proofs.Builtins.Standard
import ScriptHost.Proofs.Console.Segments

/-! Calls for lines of a stream are answered from its segments in turn. A segment that is no text
costs one call and nothing else. -/
namespace ScriptHost

open Builtins
open ScriptHost.Console (Segments LineOf TextOf)

/-- What a call for a line answers from a segment, or if there is none. -/
inductive AnswersLine : Option Bytes → Except BuiltinError Progress → Prop where
  | text (read : TextOf bytes (.ok text)) :
      AnswersLine (some bytes) (.ok (.finished (.present (.string text))))
  | failed (read : TextOf bytes (.error cause)) :
      AnswersLine (some bytes) (.error (.host (.io .readLine cause)))
  | ended : AnswersLine none (.ok (.finished .absent))

/-- Calls for lines one after the other, with what is left to read in front of them. Between two
calls all else may change, but the system fails no call for reasons of its own. -/
inductive ReadsLines (env : Environment) :
    ConsoleInput → List (Except BuiltinError Progress) → Prop where
  | nothing : ReadsLines env input []
  | read (left : before.console.input = input) (quiet : before.console.faults .readLine = none)
      (ran : (standardRegistry.callByName "io.readLine" env []).runIn before = (answer, after))
      (more : ReadsLines env after.console.input answers) :
      ReadsLines env input (answer :: answers)

/-- The answer that a line makes, or its failure. -/
private def answerWith : Except IoCause (Option String) → Except BuiltinError Progress
  | .ok line => .ok (.finished (.ofOption (line.map Value.string)))
  | .error cause => .error (.host (.io .readLine cause))

/-- The line of the first segment, if there is one. -/
private def firstLine : Option Bytes → Except IoCause (Option String)
  | none => .ok none
  | some bytes => (Console.textOfSegment bytes).map some

theorem callByName_readLine {env : Environment} (served : env.services.console = true)
    {world : World} {line : Except IoCause (Option String)} {console : Console}
    (read : world.console.readLine = (line, console)) :
    (standardRegistry.callByName "io.readLine" env []).runIn world =
      (answerWith line, { world with console }) := by
  have member : Builtins.Console.readLine ∈ standardBuiltins := by
    simp [standardBuiltins, Builtins.Console.all]
  have named : standardRegistry.callByName "io.readLine" env [] =
      Builtins.Console.readLine.run env [] := callByName_standard member rfl rfl env
  rw [named]
  refine Ends.run_eq (ends_tryNeed (fun missing => ?_) fun _ => ?_)
  · rw [served] at missing
    cases missing
  · rw [ends_bind, ends_get, read, ends_bind, ends_set]
    cases line with
    | ok line => exact (ends_pure ..).mpr rfl
    | error cause => exact (ends_throw ..).mpr rfl

theorem Console.readLine_stream {console : Console} {bytes : Bytes} {segments : List Bytes}
    (cut : Segments bytes segments) (left : console.input = .stream bytes)
    (quiet : console.faults .readLine = none) :
    ∃ rest, Segments rest segments.tail ∧
      console.readLine = (firstLine segments.head?, { console with input := .stream rest }) := by
  cases bytes with
  | nil =>
    obtain rfl := Segments.nil.unique cut
    have same : { console with input := .stream [] } = console := by rw [← left]
    refine ⟨[], .nil, ?_⟩
    rw [same, Console.readLine, quiet, left]
    rfl
  | cons byte bytes =>
    obtain ⟨more, rfl, behind⟩ := cut.eq_cons (List.cons_ne_nil _ _)
    refine ⟨_, behind, ?_⟩
    rw [Console.readLine, quiet, left]
    rfl

/-- A call for a line takes the first segment off a stream and answers from it. -/
theorem answersLine_of_ran {env : Environment} {before after : World} {bytes : Bytes}
    {segments : List Bytes} {answer : Except BuiltinError Progress}
    (served : env.services.console = true) (cut : Segments bytes segments)
    (left : before.console.input = .stream bytes) (quiet : before.console.faults .readLine = none)
    (ran : (standardRegistry.callByName "io.readLine" env []).runIn before = (answer, after)) :
    AnswersLine segments.head? answer ∧
      ∃ rest, after.console.input = .stream rest ∧ Segments rest segments.tail := by
  obtain ⟨rest, behind, read⟩ := Console.readLine_stream cut left quiet
  rw [callByName_readLine served read] at ran
  obtain ⟨rfl, rfl⟩ := Prod.mk.inj ran
  refine ⟨?_, rest, rfl, behind⟩
  cases segments.head? with
  | none => exact .ended
  | some first =>
    have textOf := Console.textOf_textOfSegment first
    rw [firstLine]
    cases text : Console.textOfSegment first with
    | ok text' => exact .text (text ▸ textOf)
    | error cause => exact .failed (text ▸ textOf)

theorem answersLine_of_run {env : Environment} {bytes : Bytes} {segments : List Bytes}
    {answers : List (Except BuiltinError Progress)} (served : env.services.console = true)
    (cut : Segments bytes segments) (run : ReadsLines env (.stream bytes) answers)
    {k : Nat} {answer : Except BuiltinError Progress} (found : answers[k]? = some answer) :
    AnswersLine segments[k]? answer := by
  generalize input : ConsoleInput.stream bytes = left at run
  induction run generalizing bytes segments k with
  | nothing => cases found
  | read same quiet ran _ ih =>
    obtain ⟨here, rest, behind, cut⟩ :=
      answersLine_of_ran served cut (same.trans input.symm) quiet ran
    cases k with
    | zero =>
      obtain rfl := Option.some.inj found
      rwa [← List.head?_eq_getElem?]
    | succ k =>
      have later := ih cut found behind.symm
      rwa [List.getElem?_tail] at later

/-- The calls for lines of a stream, however many there are and whatever happens between them, are
answered from its segments one by one: from each alone what its line is if it is text, and none when
no segment is left. -/
theorem lines_of_run {env : Environment} {bytes : Bytes}
    {answers : List (Except BuiltinError Progress)} (served : env.services.console = true)
    (run : ReadsLines env (.stream bytes) answers) :
    ∃ segments, (∀ others, Segments bytes others ↔ others = segments) ∧
      ∀ (k : Nat) (answer : Except BuiltinError Progress), answers[k]? = some answer →
        AnswersLine segments[k]? answer := by
  obtain ⟨segments, cut⟩ := Console.exists_segments bytes
  refine ⟨segments, fun others => ⟨cut.unique, ?_⟩,
    fun _ _ => answersLine_of_run served cut run⟩
  rintro rfl
  exact cut

/-- A line that is ended by both characters, one that is no text, and one that the end of the input
cuts off behind a carriage return. -/
theorem lines_of_run_cut_off :
    let bytes : Bytes := [97, 13, 10, 255, 10, 98, 13]
    let answers : List (Except BuiltinError Progress) :=
      [.ok (.finished (.present (.string "a"))), .error (.host (.io .readLine .notUtf8)),
        .ok (.finished (.present (.string "b\r"))), .ok (.finished .absent)]
    (({} : Environment).services.console = true) ∧ ReadsLines {} (.stream bytes) answers ∧
      ∃ segments, (∀ others, Segments bytes others ↔ others = segments) ∧
        ∀ (k : Nat) (answer : Except BuiltinError Progress), answers[k]? = some answer →
          AnswersLine segments[k]? answer := by
  intro bytes answers
  have call (world : World) : (standardRegistry.callByName "io.readLine" {} []).runIn world =
      (answerWith world.console.readLine.1, { world with console := world.console.readLine.2 }) :=
    callByName_readLine rfl rfl
  let before : World := { console := { input := .stream bytes } }
  have left : before.console.input = .stream bytes := rfl
  have run : ReadsLines {} (.stream bytes) answers :=
    .read left rfl (call before) <| .read rfl rfl (call _) <| .read rfl rfl (call _) <|
      .read rfl rfl (call _) .nothing
  exact ⟨rfl, run, lines_of_run rfl run⟩

end ScriptHost
