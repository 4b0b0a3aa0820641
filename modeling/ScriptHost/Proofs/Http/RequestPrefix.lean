import ScriptHost.Proofs.Http.ChunkedFraming

/-! How far into a stream the reader of a request looks. Each line is charged to a budget and each
chunk to the body limit, so a prefix of a length that the limits tell decides alone, whether the
request is read or refused. -/
namespace ScriptHost.Http

variable {limits : Limits} {source : Source}

/-- The same bytes with other bytes and another ending behind them. -/
def Source.onto (source tail : Source) : Source := tail.behind source.bytes

def Line.onto (line : Line) (tail : Source) : Line := { line with rest := line.rest.onto tail }

/-- One byte beyond the budget settles where a line ends, if it does. -/
theorem cutLine_append {budget : Nat} {read bytes : Bytes} (long : budget < bytes.length)
    (more : Bytes) :
    (∃ content rest, cutLine budget read bytes = .line content rest ∧
        cutLine budget read (bytes ++ more) = .line content (rest ++ more)) ∨
      cutLine budget read bytes = .tooLong ∧ cutLine budget read (bytes ++ more) = .tooLong := by
  induction bytes generalizing budget read with
  | nil => contradiction
  | cons byte bytes ih =>
    cases budget with
    | zero => exact .inr ⟨rfl, rfl⟩
    | succ budget =>
      rw [List.cons_append, cutLine, cutLine]
      by_cases feed : byte = 10
      · rw [if_pos feed, if_pos feed]
        exact .inl ⟨_, bytes, rfl, rfl⟩
      · rw [if_neg feed, if_neg feed]
        exact ih (Nat.lt_of_succ_lt_succ long)

namespace Source

theorem line_onto {budget : Nat} (long : budget < source.bytes.length) (missing : RequestFault)
    (tail : Source) :
    (source.onto tail).line budget missing =
      (source.line budget missing).map (Line.onto · tail) := by
  have cuts := @cutLine_append _ [] _ long tail.bytes
  have bytes : (source.onto tail).bytes = source.bytes ++ tail.bytes := rfl
  rw [line, line, line?, line?, bytes]
  rcases cuts with ⟨content, rest, first, second⟩ | ⟨first, second⟩
  · rw [first, second]
    dsimp only
    cases Text.ofBytes? (dropReturn content) <;> rfl
  · rw [first, second]
    rfl

theorem exactly_onto {count : Nat} (long : count ≤ source.bytes.length) (tail : Source) :
    (source.onto tail).exactly count =
      (source.exactly count).map fun (block, rest) => (block, rest.onto tail) := by
  have longer : count ≤ (source.onto tail).bytes.length :=
    Nat.le_trans long (by simp [onto, behind])
  rw [exactly, exactly, if_pos long, if_pos longer]
  simp [Except.map, onto, behind, List.take_append_of_le_length long,
    List.drop_append_of_le_length long]

/-- A line takes from the bytes what it takes from the budget. -/
theorem length_of_line {budget : Nat} {missing : RequestFault} {line : Line}
    (found : source.line budget missing = .ok line) :
    line.rest.bytes.length + budget = source.bytes.length + line.budget := by
  obtain ⟨bytes, _, rfl, rfl⟩ := line_eq_ok_iff.mp found
  simp only [behind, List.length_append]
  omega

end Source

theorem SizeLine.length_le {size : Nat} {bytes : Bytes} (line : SizeLine size bytes) :
    bytes.length ≤ maxChunkLine := by
  obtain ⟨_, _, short⟩ := line
  exact short

/-! Each loop as the read of its next line or chunk and what is made of it. -/

private theorem skipTrailers_eq (budget : Nat) (source : Source) :
    skipTrailers budget source = (source.line budget .closedInTrailers).bind fun line =>
      if line.text.isEmpty then .ok line.rest else skipTrailers line.budget line.rest := by
  rw [skipTrailers]
  split <;> simp_all [Except.bind]

private theorem firstLine_eq (budget : Nat) (source : Source) :
    firstLine budget source = (source.line budget .closedBeforeRequestLine).bind fun line =>
      if line.text.isEmpty then firstLine line.budget line.rest else .ok line := by
  rw [firstLine]
  split <;> simp_all [Except.bind]

private theorem readHeaders_eq (headers : Headers) (budget : Nat) (source : Source) :
    readHeaders headers budget source = (source.line budget .closedInHeaders).bind fun line =>
      if line.text.isEmpty then .ok (headers, line.rest)
      else (headers.addLine line.text).bind fun more => readHeaders more line.budget line.rest := by
  rw [readHeaders]
  split
  · simp_all [Except.bind]
  · simp_all only [Except.bind]
    split
    · rfl
    · split <;> simp_all

private theorem chunks_eq (limits : Limits) (total : Nat) (source : Source) :
    chunks limits total source = (nextChunk limits total source).bind fun
      | (none, rest) => .ok ([], rest)
      | (some data, rest) =>
        (chunks limits (total + data.length) rest).map fun (more, rest) => (data ++ more, rest) := by
  rw [chunks]
  split <;> simp_all [Except.bind]

theorem skipTrailers_onto {budget : Nat} (long : budget < source.bytes.length) (tail : Source) :
    skipTrailers budget (source.onto tail) =
      (skipTrailers budget source).map (Source.onto · tail) := by
  induction budget using Nat.strongRecOn generalizing source with
  | ind budget ih =>
    rw [skipTrailers_eq, skipTrailers_eq, Source.line_onto long]
    cases found : source.line budget .closedInTrailers with
    | error error => rfl
    | ok line =>
      have length := Source.length_of_line found
      have shorter := (Source.shrinks_of_line found).1
      simp only [Except.map, Except.bind, Line.onto]
      split
      · rfl
      · exact ih line.budget shorter (by omega)

theorem firstLine_onto {budget : Nat} (long : budget < source.bytes.length) (tail : Source) :
    firstLine budget (source.onto tail) = (firstLine budget source).map (Line.onto · tail) := by
  induction budget using Nat.strongRecOn generalizing source with
  | ind budget ih =>
    rw [firstLine_eq, firstLine_eq, Source.line_onto long]
    cases found : source.line budget .closedBeforeRequestLine with
    | error error => rfl
    | ok line =>
      have length := Source.length_of_line found
      have shorter := (Source.shrinks_of_line found).1
      simp only [Except.map, Except.bind, Line.onto]
      split
      · exact ih line.budget shorter (by omega)
      · rfl

theorem readHeaders_onto {headers : Headers} {budget : Nat} (long : budget < source.bytes.length)
    (tail : Source) :
    readHeaders headers budget (source.onto tail) =
      (readHeaders headers budget source).map fun (headers, rest) => (headers, rest.onto tail) := by
  induction budget using Nat.strongRecOn generalizing source headers with
  | ind budget ih =>
    rw [readHeaders_eq, readHeaders_eq, Source.line_onto long]
    cases found : source.line budget .closedInHeaders with
    | error error => rfl
    | ok line =>
      have length := Source.length_of_line found
      have shorter := (Source.shrinks_of_line found).1
      simp only [Except.map, Except.bind, Line.onto]
      split
      · rfl
      · cases headers.addLine line.text with
        | error error => rfl
        | ok more => exact ih line.budget shorter (by omega)

theorem chunkData_onto {size : Nat} (long : size + 2 ≤ source.bytes.length) (tail : Source) :
    chunkData size (source.onto tail) =
      (chunkData size source).map fun (data, rest) => (data, rest.onto tail) := by
  rw [chunkData, chunkData, Source.exactly_onto (by omega)]
  cases found : source.exactly size with
  | error error => rfl
  | ok block =>
    obtain ⟨data, afterData⟩ := block
    have length := Source.length_of_exactly found
    simp only [Except.map]
    rw [Source.exactly_onto (by omega)]
    cases afterData.exactly 2 with
    | error error => rfl
    | ok block =>
      simp only [Except.map]
      split <;> rfl

/-- The chunks that are still to come are bounded by what is left of the body limit: each has one
byte of data at least, a size line and a line break. -/
theorem nextChunk_onto {total : Nat} (begun : total ≤ limits.maxBodyBytes)
    (long : limits.maxHeaderBytes + 4099 * (limits.maxBodyBytes - total) + 4097 ≤
      source.bytes.length) (tail : Source) :
    nextChunk limits total (source.onto tail) =
      (nextChunk limits total source).map fun (data, rest) => (data, rest.onto tail) := by
  have cap : maxChunkLine = 4096 := rfl
  rw [nextChunk, nextChunk, Source.line_onto (by omega)]
  cases found : source.line maxChunkLine .closedInChunks with
  | error error => rfl
  | ok line =>
    have length := Source.length_of_line found
    simp only [Except.map, Line.onto]
    cases chunkSize line.text with
    | error error => rfl
    | ok size =>
      dsimp only
      split
      · rw [skipTrailers_onto (by omega)]
        cases skipTrailers limits.maxHeaderBytes line.rest <;> rfl
      · split
        · rfl
        · rw [chunkData_onto (by omega)]
          cases chunkData size line.rest <;> rfl

theorem chunks_onto {total : Nat} (begun : total ≤ limits.maxBodyBytes)
    (long : limits.maxHeaderBytes + 4099 * (limits.maxBodyBytes - total) + 4097 ≤
      source.bytes.length) (tail : Source) :
    chunks limits total (source.onto tail) =
      (chunks limits total source).map fun (body, rest) => (body, rest.onto tail) := by
  induction size : source.bytes.length using Nat.strongRecOn generalizing total source with
  | ind size ih =>
    rw [chunks_eq, chunks_eq, nextChunk_onto begun long]
    cases found : nextChunk limits total source with
    | error error => rfl
    | ok chunk =>
      match chunk with
      | (none, rest) => rfl
      | (some data, rest) =>
        have shorter := shrinks_of_nextChunk found
        obtain ⟨front, sized, filled, bounded, rfl⟩ := nextChunk_eq_some_iff.mp found
        have short : front.length ≤ 4096 := sized.length_le
        have positive := List.length_pos_iff.mpr filled
        have length : (rest.behind (front ++ data ++ [13, 10])).bytes.length =
            front.length + data.length + 2 + rest.bytes.length := by
          simp only [Source.behind, List.length_append, List.length_cons, List.length_nil]
        simp only [Except.map, Except.bind]
        rw [ih rest.bytes.length (by omega) bounded (by omega) rfl]
        cases chunks limits (total + data.length) rest <;> rfl

theorem readBody_onto {headers : Headers}
    (long : limits.maxHeaderBytes + 4099 * limits.maxBodyBytes + 4097 ≤ source.bytes.length)
    (tail : Source) :
    readBody headers limits (source.onto tail) =
      (readBody headers limits source).map fun (body, rest) => (body, rest.onto tail) := by
  rw [readBody, readBody]
  split
  · split
    · exact chunks_onto (Nat.zero_le _) (by omega) tail
    · rfl
  · split
    · rfl
    · split
      · rfl
      · split
        · rfl
        · exact Source.exactly_onto (by omega) tail

/-- Whatever its framing, a body that is read keeps to its limit. -/
theorem length_of_readBody {headers : Headers} {rest : Source} {body : Bytes}
    (read : readBody headers limits source = .ok (body, rest)) :
    body.length ≤ limits.maxBodyBytes := by
  rw [readBody] at read
  split at read
  · split at read
    · obtain ⟨_, _, _, _, _, _, bounded, _⟩ := (chunks_eq_ok_iff (Nat.zero_le _)).mp read
      omega
    · cases read
  · split at read
    · obtain ⟨rfl, _⟩ := Prod.mk.inj (Except.ok.inj read)
      exact Nat.zero_le _
    · split at read
      · cases read
      · split at read
        · cases read
        · obtain ⟨rfl, _⟩ := Source.exactly_eq_ok_iff.mp read
          omega

theorem readRequest_onto
    (long : 2 * limits.maxHeaderBytes + 4099 * limits.maxBodyBytes + 4097 ≤ source.bytes.length)
    (tail : Source) :
    readRequest limits (source.onto tail) =
      (readRequest limits source).map fun (request, rest) => (request, rest.onto tail) := by
  rw [readRequest, readRequest, firstLine_onto (by omega)]
  cases first : firstLine limits.maxHeaderBytes source with
  | error error => rfl
  | ok line =>
    obtain ⟨_, _, front, _, rfl, paid⟩ := firstLine_eq_ok_iff.mp first
    rw [Source.behind, List.length_append] at long
    simp only [bind, Except.bind, Except.map, Line.onto]
    cases RequestLine.ofText line.text with
    | error error => rfl
    | ok requestLine =>
      dsimp only
      rw [readHeaders_onto (by omega)]
      cases second : readHeaders SortedMap.empty line.budget line.rest with
      | error error => rfl
      | ok head =>
        obtain ⟨headers, afterHead⟩ := head
        obtain ⟨_, bytes, _, _, fits, behind, _⟩ := readHeaders_eq_ok_iff.mp second
        rw [behind, Source.behind, List.length_append] at long
        simp only [Except.map]
        rw [readBody_onto (by omega)]
        cases readBody headers limits afterHead <;> rfl

/-- A prefix that covers two head budgets, a size line and a line break for each byte of the body limit
and one size line more decides how a request is read: what follows it changes neither the request and
the bytes that it takes nor the error. A body that is read keeps to its limit in any case. -/
theorem readRequest_of_long (limits : Limits) (raw : Bytes) (ending : Ending) :
    (2 * limits.maxHeaderBytes + 4099 * limits.maxBodyBytes + 4097 ≤ raw.length →
      ∀ tail : Source, readRequest limits (tail.behind raw) =
        (readRequest limits ⟨raw, ending⟩).map fun (request, rest) =>
          (request, tail.behind rest.bytes)) ∧
      ∀ request rest, readRequest limits ⟨raw, ending⟩ = .ok (request, rest) →
        request.body.length ≤ limits.maxBodyBytes := by
  constructor
  · intro long
    exact @readRequest_onto limits ⟨raw, ending⟩ long
  · intro request rest read
    obtain ⟨_, _, _, _, _, body, framed, rfl⟩ := readRequest_eq_ok_iff.mp read
    exact length_of_readBody framed

/-- A request without a body, in front of as many bytes as the limits ask for. -/
theorem readRequest_of_long_get :
    let limits : Limits := ⟨32, 0⟩
    let head : Head := ⟨0, "GET", "/", .http10, [⟨"Host", " x"⟩]⟩
    let filler : Bytes := List.replicate 4161 0
    let raw := crlf head.lines ++ filler
    2 * limits.maxHeaderBytes + 4099 * limits.maxBodyBytes + 4097 ≤ raw.length ∧
      ∀ tail : Source,
        readRequest limits (tail.behind raw) = .ok (head.request [], tail.behind filler) := by
  intro limits head filler raw
  have long : 2 * limits.maxHeaderBytes + 4099 * limits.maxBodyBytes + 4097 ≤ raw.length := by
    rw [List.length_append, List.length_replicate]
    exact Nat.le_add_left _ _
  have accepted : head.Accepted limits (crlf head.lines) :=
    ⟨by decide, by decide, by decide, by decide, lines_crlf (by decide), by decide⟩
  have body : readBody (Headers.ofFields head.fields) limits ⟨filler, .closed⟩ =
      .ok ([], ⟨filler, .closed⟩) :=
    (readBody_lengthFramed_iff (by decide)).mpr ⟨.none (by decide), Nat.zero_le _, rfl⟩
  have read : readRequest limits ⟨raw, .closed⟩ = .ok (head.request [], ⟨filler, .closed⟩) := by
    change readRequest limits (Source.behind ⟨filler, .closed⟩ (crlf head.lines)) = _
    rw [readRequest_of_accepted accepted, body]
    rfl
  refine ⟨long, fun tail => ?_⟩
  rw [(readRequest_of_long limits raw .closed).1 long tail, read]
  rfl

end ScriptHost.Http
