import ScriptHost.Proofs.Http.RequestFaults

/-! Where a request ends. Its own bytes decide: what follows them is never looked at, and with fewer
of them there is no request. -/
namespace ScriptHost.Http

variable {limits : Limits} {source rest : Source} {request : Request}

/-- A body is read off its own bytes, whatever follows them. -/
theorem readBody_behind {fields : List Field} {body : Bytes}
    (read : readBody (Headers.ofFields fields) limits source = .ok (body, rest)) :
    ∃ bytes, source = rest.behind bytes ∧ ∀ other : Source,
      readBody (Headers.ofFields fields) limits (other.behind bytes) = .ok (body, other) := by
  cases coded : joined (valuesOf "Transfer-Encoding" fields) with
  | none =>
    have plain := joined_eq_none_iff.mp coded
    obtain ⟨declared, bounded, behind⟩ := (readBody_lengthFramed_iff plain).mp read
    refine ⟨body, behind, fun other => ?_⟩
    exact (readBody_lengthFramed_iff plain).mpr ⟨declared, bounded, rfl⟩
  | some value =>
    have last := Text.isBehind_takeWhile ',' value.toList
    rw [readBody_of_coding coded last] at read
    split at read
    · rename_i chunked
      obtain ⟨bytes, spelled, behind⟩ := chunks_eq_ok_iff_chunkedBody.mp read
      refine ⟨bytes, behind, fun other => ?_⟩
      rw [readBody_of_coding coded last, if_pos chunked]
      exact chunks_eq_ok_iff_chunkedBody.mpr ⟨bytes, spelled, rfl⟩
    · cases read

/-- A request is read off its own bytes, whatever follows them. -/
theorem readRequest_behind (read : readRequest limits source = .ok (request, rest)) :
    ∃ bytes, source = rest.behind bytes ∧ ∀ other : Source,
      readRequest limits (other.behind bytes) = .ok (request, other) := by
  obtain ⟨head, headBytes, afterHead, accepted, rfl, body, framed, rfl⟩ :=
    readRequest_eq_ok_iff.mp read
  obtain ⟨bodyBytes, rfl, same⟩ := readBody_behind framed
  refine ⟨headBytes ++ bodyBytes, (rest.behind_append headBytes bodyBytes).symm, fun other => ?_⟩
  rw [Source.behind_append, readRequest_of_accepted accepted, same other]
  rfl

/-- The bytes of a request do not begin with a shorter request. -/
theorem readRequest_take_ne_ok {bytes : Bytes} {ending : Ending} {other : Request} {less : Source}
    (read : readRequest limits (rest.behind bytes) = .ok (request, rest))
    (short : count < bytes.length) :
    readRequest limits ⟨bytes.take count, ending⟩ ≠ .ok (other, less) := by
  intro early
  obtain ⟨taken, front, same⟩ := readRequest_behind early
  have split : bytes = taken ++ (less.bytes ++ bytes.drop count) := by
    have begun : bytes.take count = taken ++ less.bytes := congrArg Source.bytes front
    rw [← List.append_assoc, ← begun, List.take_append_drop]
  have again := same (rest.behind (less.bytes ++ bytes.drop count))
  rw [← Source.behind_append, ← split, read] at again
  have left : rest = rest.behind (less.bytes ++ bytes.drop count) :=
    congrArg Prod.snd (Except.ok.inj again)
  have lengths := congrArg (fun source => source.bytes.length) left
  simp only [Source.behind, List.length_append, List.length_drop] at lengths
  omega

/-- If a request is read off the front of some bytes, then the bytes that it takes decide alone: with
anything behind them the same request is read and takes the same bytes, and any fewer of them are
malformed or end within the body. -/
theorem readRequest_decided {raw : Bytes} {ending : Ending}
    (read : readRequest limits ⟨raw, ending⟩ = .ok (request, rest)) :
    ∃ count ≤ raw.length, rest = ⟨raw.drop count, ending⟩ ∧
      (∀ more : Source, readRequest limits (more.behind (raw.take count)) = .ok (request, more)) ∧
      ∀ short < count, ∃ error, readRequest limits ⟨raw.take short, .closed⟩ = .error error ∧
        ((∃ fault, error = .malformedRequest fault) ∨ error = .io .readBody .endedEarly) := by
  obtain ⟨bytes, source, same⟩ := readRequest_behind read
  obtain ⟨rfl, rfl⟩ := Source.mk.inj source
  refine ⟨bytes.length, by simp, by simp, ?_, ?_⟩
  · intro more
    rw [List.take_left]
    exact same more
  · intro short fewer
    rw [List.take_append_of_le_length (Nat.le_of_lt fewer)]
    have failing := failsAt_readRequest limits ⟨bytes.take short, .closed⟩
    cases early : readRequest limits ⟨bytes.take short, .closed⟩ with
    | ok result => exact absurd early (readRequest_take_ne_ok (same rest) fewer)
    | error error =>
      rw [early] at failing
      refine ⟨error, rfl, ?_⟩
      cases failing with
      | malformed fault => exact .inl ⟨fault, rfl⟩
      | ended => exact .inr rfl

theorem readRequest_decided_hello :
    let head : Head := ⟨0, "POST", "/", .http11, [⟨"Content-Length", " 5"⟩]⟩
    let bytes := crlf head.lines ++ Text.toBytes "hello"
    readRequest {} ⟨bytes ++ Text.toBytes "GET", .closed⟩ =
        .ok (head.request (Text.toBytes "hello"), ⟨Text.toBytes "GET", .closed⟩) ∧
      (∀ more : Source,
        readRequest {} (more.behind bytes) = .ok (head.request (Text.toBytes "hello"), more)) ∧
      ∀ short < bytes.length, ∃ error,
        readRequest {} ⟨bytes.take short, .closed⟩ = .error error ∧
          ((∃ fault, error = .malformedRequest fault) ∨ error = .io .readBody .endedEarly) := by
  intro head bytes
  have accepted : head.Accepted {} (crlf head.lines) := by
    refine ⟨by decide, by decide, by decide, by decide, lines_crlf (by decide), by decide⟩
  have five : Number.decimal? "5" = some 5 := by decide
  obtain ⟨numeral, small⟩ := Number.decimal?_eq_some_iff.mp five
  have declared : DeclaresLength head.fields 5 := .single (by decide) numeral small
  let next : Source := ⟨Text.toBytes "GET", .closed⟩
  have body : readBody (Headers.ofFields head.fields) {} (next.behind (Text.toBytes "hello")) =
      .ok (Text.toBytes "hello", next) :=
    (readBody_lengthFramed_iff (by decide)).mpr ⟨declared, by decide, rfl⟩
  have read : readRequest {} (next.behind bytes) =
      .ok (head.request (Text.toBytes "hello"), next) := by
    rw [Source.behind_append, readRequest_of_accepted accepted, body]
    rfl
  obtain ⟨count, bounded, rest, same, cut⟩ := readRequest_decided read
  have whole : count = bytes.length := by
    have three : next.bytes.length = 3 := rfl
    have left := congrArg (fun source : Source => source.bytes.length) rest
    simp only [List.length_drop, List.length_append] at left bounded
    omega
  rw [whole, List.take_left] at same
  refine ⟨read, same, fun short fewer => ?_⟩
  have early := cut short (whole ▸ fewer)
  rwa [List.take_append_of_le_length (Nat.le_of_lt fewer)] at early

end ScriptHost.Http
