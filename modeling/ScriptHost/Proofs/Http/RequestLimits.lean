import ScriptHost.Proofs.Http.RequestExtent

/-! What the limits of the reader change about a request: only whether it is read. The grammar of a
request bounds the lengths of its parts and mentions the limits nowhere else. -/
namespace ScriptHost.Http

/-- Limits that allow nothing more than others do. -/
structure Limits.Within (limits wider : Limits) : Prop where
  header : limits.maxHeaderBytes ≤ wider.maxHeaderBytes
  body : limits.maxBodyBytes ≤ wider.maxBodyBytes

variable {limits wider : Limits} {source rest : Source} {request : Request} {body bytes : Bytes}

theorem Head.Accepted.of_within {head : Head} (accepted : head.Accepted limits bytes)
    (within : limits.Within wider) : head.Accepted wider bytes :=
  { accepted with fits := Nat.le_trans accepted.fits within.header }

theorem LastChunk.of_within (last : LastChunk limits bytes) (within : limits.Within wider) :
    LastChunk wider bytes := by
  obtain ⟨size, written, lines, fits⟩ := last
  exact .intro size written lines (Nat.le_trans fits within.header)

theorem ChunkedBody.of_within (chunked : ChunkedBody limits body bytes)
    (within : limits.Within wider) : ChunkedBody wider body bytes := by
  obtain ⟨chunks, last, bounded⟩ := chunked
  exact .intro chunks (last.of_within within) (Nat.le_trans bounded within.body)

theorem readBody_of_within {fields : List Field} (within : limits.Within wider)
    (read : readBody (Headers.ofFields fields) limits source = .ok (body, rest)) :
    readBody (Headers.ofFields fields) wider source = .ok (body, rest) := by
  cases coded : joined (valuesOf "Transfer-Encoding" fields) with
  | none =>
    have plain := joined_eq_none_iff.mp coded
    obtain ⟨declared, bounded, behind⟩ := (readBody_lengthFramed_iff plain).mp read
    have allowed := Nat.le_trans bounded within.body
    exact (readBody_lengthFramed_iff plain).mpr ⟨declared, allowed, behind⟩
  | some value =>
    have last := Text.isBehind_takeWhile ',' value.toList
    rw [readBody_of_coding coded last] at read ⊢
    split at read
    · rename_i chunked
      obtain ⟨bytes, spelled, behind⟩ := chunks_eq_ok_iff_chunkedBody.mp read
      rw [if_pos chunked]
      exact chunks_eq_ok_iff_chunkedBody.mpr ⟨bytes, spelled.of_within within, behind⟩
    · cases read

theorem readRequest_of_within (within : limits.Within wider)
    (read : readRequest limits source = .ok (request, rest)) :
    readRequest wider source = .ok (request, rest) := by
  obtain ⟨head, bytes, afterHead, accepted, rfl, body, framed, rfl⟩ :=
    readRequest_eq_ok_iff.mp read
  exact readRequest_of_framed (accepted.of_within within) (readBody_of_within within framed)

/-- A request that is read within some limits is read within wider ones as the same request, which
takes the same bytes. -/
theorem readRequest_same_of_wider {raw : Bytes} {ending : Ending} (within : limits.Within wider)
    (read : readRequest limits ⟨raw, ending⟩ = .ok (request, rest)) :
    ∃ count ≤ raw.length, rest = ⟨raw.drop count, ending⟩ ∧
      readRequest wider ⟨raw, ending⟩ = .ok (request, ⟨raw.drop count, ending⟩) := by
  obtain ⟨bytes, source, _⟩ := readRequest_behind read
  obtain ⟨rfl, rfl⟩ := Source.mk.inj source
  refine ⟨bytes.length, by simp, by simp, ?_⟩
  rw [List.drop_left]
  exact readRequest_of_within within read

/-- A request whose head and body use up the limits within which it is read. -/
theorem readRequest_same_of_wider_exact :
    let head : Head := ⟨0, "POST", "/", .http11, [⟨"Transfer-Encoding", " chunked"⟩]⟩
    let chunks := crlf ["5"] ++ Text.toBytes "hello" ++ [13, 10] ++ crlf ["0", "X: y", ""]
    let raw := crlf head.lines ++ chunks
    let tight : Limits := ⟨47, 5⟩
    tight.Within {} ∧
      readRequest tight ⟨raw, .closed⟩ = .ok (head.request (Text.toBytes "hello"), ⟨[], .closed⟩) ∧
      readRequest {} ⟨raw, .closed⟩ = .ok (head.request (Text.toBytes "hello"), ⟨[], .closed⟩) := by
  intro head chunks raw tight
  have within : tight.Within {} := ⟨by decide, by decide⟩
  have accepted : head.Accepted tight (crlf head.lines) :=
    ⟨by decide, by decide, by decide, by decide, lines_crlf (by decide), by decide⟩
  have coded : joined (valuesOf "Transfer-Encoding" head.fields) = some "chunked" := by decide
  have five : AnnouncesSize "5" 5 := chunkSize_eq_ok_iff.mp (by decide)
  have sized : SizeLine (Text.toBytes "hello").length (crlf ["5"]) :=
    .intro five (.returned (by decide)) (by decide)
  have none : AnnouncesSize "0" 0 := chunkSize_eq_ok_iff.mp (by decide)
  have zero : SizeLine 0 (crlf ["0"]) := .intro none (.returned (by decide)) (by decide)
  have trailers : Lines (["X: y"] ++ [""]) (crlf ["X: y", ""]) := lines_crlf (by decide)
  have last : LastChunk tight (crlf ["0"] ++ crlf ["X: y", ""]) :=
    .intro zero (by decide) trailers (by decide)
  have body := ChunkedBody.intro (.cons sized (by decide) .nil) last (by decide)
  have framed : readBody (Headers.ofFields head.fields) tight ⟨chunks, .closed⟩ =
      .ok (Text.toBytes "hello", ⟨[], .closed⟩) := by
    rw [readBody_of_coding coded (Text.isBehind_takeWhile ',' _), if_pos (by decide)]
    exact chunks_eq_ok_iff_chunkedBody.mpr ⟨_, body, rfl⟩
  have read := readRequest_of_framed accepted framed
  rw [Source.behind] at read
  obtain ⟨count, _, left, same⟩ := readRequest_same_of_wider within read
  rw [← left] at same
  exact ⟨within, read, same⟩

end ScriptHost.Http
