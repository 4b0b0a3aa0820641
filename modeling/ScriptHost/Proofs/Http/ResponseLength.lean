import ScriptHost.Proofs.Http.ResponseHead

/-! The lengths that the head of a response tells. Names of headers differ by case in the map of a
caller but not on the wire, so a length that is given under two spellings is told twice. -/
namespace ScriptHost.Http

open Text (equalIgnoringCase)

/-- The header lines in front of the first empty line, and the bytes behind it. -/
def headerLinesOf? (bytes : Bytes) : Option (List String × Bytes) := do
  let (head, sent) ← Text.cutAt? [13, 10, 13, 10] bytes
  let lines ← (Text.splitOn [13, 10] head).mapM Text.ofBytes?
  return (lines.tail, sent)

/-- Whether a header tells a length, its name in any spelling. -/
def isLength (name : String) : Bool := equalIgnoringCase name "content-length"

/-- What stands behind the colon of each line that tells a length. -/
def lengthsTold (lines : List String) : List String :=
  lines.filterMap fun line =>
    (cutAtChar? ':' line).bind fun (name, value) => if isLength name then some value else none

theorem lengthsTold_headerLine {headers : List (String × String)}
    (tokens : ∀ header ∈ headers, isToken header.1) :
    lengthsTold (headers.map headerLine) =
      (headers.filter fun header => isLength header.1).map fun header => " " ++ header.2 := by
  induction headers with
  | nil => rfl
  | cons header headers ih =>
    obtain ⟨token, tokens⟩ := List.forall_mem_cons.mp tokens
    rw [lengthsTold] at ih
    rw [lengthsTold, List.map_cons, List.filterMap_cons, cutAtChar?_headerLine token, ih tokens]
    cases named : isLength header.1 <;> simp [named]

namespace Response

variable {response : Response} {omitBody : Bool}

/-- The lengths that the caller gives, in the order of the spellings. -/
def givenLengths (response : Response) : List String :=
  (response.headers.entries.filter fun entry => isLength entry.1).map (·.2)

/-- A reply that may carry a body tells one length: that of the bytes which follow the head, or, if
the body is left out, the one that the caller gives and else that of the body. Any other reply tells
none. -/
def TellsLength (response : Response) (omitBody : Bool) : Prop :=
  ∃ lines sent, headerLinesOf? (response.toBytes omitBody) = some (lines, sent) ∧
    if forbidsBody response.status then lengthsTold lines = []
    else ∃ value, lengthsTold lines = [" " ++ value] ∧
      if omitBody = false then value = toString sent.length
      else if response.givenLengths = [] then value = toString response.body.length
      else value ∈ response.givenLengths

end Response

variable {response : Response} {omitBody : Bool}

private theorem mapM_ofBytes?_toBytes (lines : List String) :
    (lines.map Text.toBytes).mapM Text.ofBytes? = some lines := by
  induction lines with
  | nil => rfl
  | cons line lines ih =>
    rw [List.map_cons, List.mapM_cons, Text.ofBytes?_toBytes, ih]
    rfl

/-- The lines that are found on the wire are those of the writer. -/
theorem headerLinesOf?_toBytes (valid : response.headers.validate = .ok ()) :
    headerLinesOf? (response.toBytes omitBody) =
      some ((response.headerLines omitBody).map headerLine,
        if omitBody || forbidsBody response.status then [] else response.body) := by
  rw [headerLinesOf?, cutAt?_toBytes valid]
  simp only [Option.bind_eq_bind, Option.bind_some, splitOn_headLines valid,
    mapM_ofBytes?_toBytes]
  rfl

/-- A length that is given is written only if it describes a body that is left out. -/
theorem keepsHeader_of_isLength {status : Nat} {name : String} (named : isLength name) :
    keepsHeader status omitBody name = (!forbidsBody status && omitBody) := by
  rw [isLength] at named
  have other : ¬equalIgnoringCase name "connection" := by
    intro same
    rw [equalIgnoringCase, beq_iff_eq] at named same
    exact absurd (named.symm.trans same) (by decide)
  rw [keepsHeader, if_neg other, if_pos named]

theorem filter_keptHeaders :
    (response.keptHeaders omitBody).filter (fun entry => isLength entry.1) =
      if !forbidsBody response.status && omitBody then
        response.headers.entries.filter fun entry => isLength entry.1
      else [] := by
  have kept : (response.keptHeaders omitBody).filter (fun entry => isLength entry.1) =
      response.headers.entries.filter fun entry =>
        (!forbidsBody response.status && omitBody) && isLength entry.1 := by
    rw [Response.keptHeaders, List.filter_filter]
    refine List.filter_congr fun entry _ => ?_
    cases named : isLength entry.1 with
    | false => simp
    | true => rw [keepsHeader_of_isLength named, Bool.true_and, Bool.and_true]
  rw [kept]
  cases !forbidsBody response.status && omitBody <;> simp

/-- The lengths that are written: none where no body is allowed, those of the caller where they
stand for a body that is left out, and else the one of the body. -/
theorem lengths_headerLines :
    ((response.headerLines omitBody).filter fun header => isLength header.1).map (·.2) =
      if forbidsBody response.status then []
      else if omitBody = false ∨ response.givenLengths = [] then [toString response.body.length]
      else response.givenLengths := by
  have any : (response.keptHeaders omitBody).any (fun entry => isLength entry.1) =
      !((response.keptHeaders omitBody).filter fun entry => isLength entry.1).isEmpty := by
    rw [Bool.eq_iff_iff]
    simp
  have length : isLength "Content-Length" := by decide
  have connection : isLength "Connection" = false := by decide
  change (List.filter _ (response.keptHeaders omitBody ++ _ ++ _)).map _ = _
  change ((response.keptHeaders omitBody).any fun entry =>
    equalIgnoringCase entry.1 "content-length") = _ at any
  rw [any, List.filter_append, List.filter_append, filter_keptHeaders, Response.givenLengths]
  cases forbidsBody response.status
  case true => simp [connection]
  case false =>
    cases omitBody
    case false => simp [length, connection]
    case true =>
      cases response.headers.entries.filter fun entry => isLength entry.1 <;>
        simp [length, connection]

theorem lengthsTold_headerLines (valid : response.headers.validate = .ok ()) :
    lengthsTold ((response.headerLines omitBody).map headerLine) =
      (if forbidsBody response.status then []
        else if omitBody = false ∨ response.givenLengths = [] then [toString response.body.length]
        else response.givenLengths).map (" " ++ ·) := by
  have tokens : ∀ header ∈ response.headerLines omitBody, isToken header.1 := fun _ member =>
    (writable_of_mem_headerLines valid member).1
  rw [lengthsTold_headerLine tokens, ← lengths_headerLines, List.map_map]
  rfl

/-- A reply with accepted headers tells its length rightly unless it goes without the body that it may
carry and the caller gives two lengths, under names that differ in case. The check compares each name
with the one of the length but never two of them, and both lines are written. -/
theorem tellsLength_iff (valid : response.headers.validate = .ok ()) :
    response.TellsLength omitBody ↔
      (forbidsBody response.status = false → omitBody = true → response.givenLengths.length ≤ 1) := by
  have wire := @headerLinesOf?_toBytes _ omitBody valid
  have told := @lengthsTold_headerLines _ omitBody valid
  constructor
  · intro tells carries omitted
    obtain ⟨lines, sent, found, rightly⟩ := tells
    obtain ⟨rfl, rfl⟩ := Prod.mk.inj (Option.some.inj (wire.symm.trans found))
    rw [carries, if_neg Bool.false_ne_true] at rightly
    obtain ⟨value, single, _⟩ := rightly
    rw [told, carries, if_neg Bool.false_ne_true] at single
    by_cases given : response.givenLengths = []
    · simp [given]
    · rw [if_neg (by simp [omitted, given])] at single
      have length := congrArg List.length single
      rw [List.length_map, List.length_singleton] at length
      exact Nat.le_of_eq length
  · intro atMostOne
    refine ⟨_, _, wire, ?_⟩
    rw [told]
    cases carries : forbidsBody response.status with
    | true => rfl
    | false =>
      rw [if_neg Bool.false_ne_true, if_neg Bool.false_ne_true]
      cases omitted : omitBody with
      | false => exact ⟨toString response.body.length, rfl, by simp⟩
      | true =>
        match given : response.givenLengths, atMostOne carries omitted with
        | [], _ => exact ⟨toString response.body.length, rfl, by simp⟩
        | [value], _ => exact ⟨value, rfl, by simp⟩

/-- A reply to a `HEAD` request tells the length that its caller gives, in the caller's spelling. -/
theorem tellsLength_of_given :
    let response : Response :=
      ⟨.http11, 200, SortedMap.ofList [("content-LENGTH", "9"), ("X-Ok", "v")], []⟩
    response.headers.validate = .ok () ∧ response.TellsLength true := by
  intro response
  have valid : response.headers.validate = .ok () := by decide
  exact ⟨valid, (tellsLength_iff valid).mpr (by decide)⟩

/-- Two lengths that contradict each other are accepted, and both are told. -/
theorem not_tellsLength_of_spellings :
    let response : Response :=
      ⟨.http11, 200, SortedMap.ofList [("Content-Length", "5"), ("content-length", "7")], []⟩
    response.headers.validate = .ok () ∧ ¬response.TellsLength true := by
  intro response
  have valid : response.headers.validate = .ok () := by decide
  refine ⟨valid, ?_⟩
  intro tells
  obtain ⟨lines, sent, found, rightly⟩ := tells
  obtain ⟨rfl, rfl⟩ := Prod.mk.inj (Option.some.inj ((headerLinesOf?_toBytes valid).symm.trans found))
  have both : lengthsTold ((response.headerLines true).map headerLine) = [" 5", " 7"] := by decide
  have carries : forbidsBody response.status = false := by decide
  rw [both, carries, if_neg Bool.false_ne_true] at rightly
  obtain ⟨value, single, _⟩ := rightly
  simp at single

end ScriptHost.Http
