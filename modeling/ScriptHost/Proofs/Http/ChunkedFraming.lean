import ScriptHost.Proofs.Http.LengthFraming

/-! Bodies that are framed chunk by chunk. The grammar of size lines, chunks and trailers is stated
over bytes; the reader accepts nothing else, and it reads the body that a declared length would have
framed. -/
namespace ScriptHost.Http

open Text (IsBefore IsBehind equalIgnoringCase)

/-- The line announces the size; extensions start at a semicolon. -/
def AnnouncesSize (text : String) (size : Nat) : Prop :=
  ∃ part, IsBefore ';' text.toList part ∧ Number.Numeral 16 (Text.trimChars part) size ∧
    size < UInt64.size

/-- The bytes of a size line, which has a limit of its own. -/
inductive SizeLine (size : Nat) : Bytes → Prop where
  | intro (announced : AnnouncesSize text size) (line : LineBytes text bytes)
      (short : bytes.length ≤ maxChunkLine) : SizeLine size bytes

/-- The bytes of one chunk after the other. -/
inductive Chunks : List Bytes → Bytes → Prop where
  | nil : Chunks [] []
  | cons (size : SizeLine data.length front) (filled : data ≠ []) (more : Chunks blocks back) :
      Chunks (data :: blocks) (front ++ data ++ [13, 10] ++ back)

/-- The line of size zero and the trailers behind it. -/
inductive LastChunk (limits : Limits) : Bytes → Prop where
  | intro (size : SizeLine 0 front) (written : "" ∉ trailers)
      (lines : Lines (trailers ++ [""]) back)
      (fits : back.length ≤ limits.maxHeaderBytes) : LastChunk limits (front ++ back)

/-- The bytes of a chunked body within the limits. -/
inductive ChunkedBody (limits : Limits) : (body bytes : Bytes) → Prop where
  | intro (chunks : Chunks blocks front) (last : LastChunk limits back)
      (bounded : blocks.flatten.length ≤ limits.maxBodyBytes) :
      ChunkedBody limits blocks.flatten (front ++ back)

theorem chunkSize_eq_ok_iff {line : String} {size : Nat} :
    chunkSize line = .ok size ↔ AnnouncesSize line size := by
  have part := Text.isBefore_takeWhile ';' line.toList
  have spelled : (Text.trim (before ';' line)).toList =
      Text.trimChars (line.toList.takeWhile (· != ';')) := by
    rw [Text.trim, before, String.toList_ofList, String.toList_ofList]
  have read : Number.hexadecimal? (Text.trim (before ';' line)) = some size ↔
      AnnouncesSize line size := by
    simp only [Number.hexadecimal?_eq_some_iff, spelled]
    constructor
    · intro numeral
      exact ⟨_, part, numeral⟩
    · intro framed
      obtain ⟨taken, isBefore, numeral⟩ := framed
      rw [Text.takeWhile_eq_of_isBefore isBefore]
      exact numeral
  rw [← read]
  delta chunkSize
  dsimp only
  split
  · rename_i found
    rw [found, Except.ok.injEq, Option.some.injEq]
  · rename_i missing
    simp [missing]

/-- A size line is read exactly off its bytes. -/
private theorem sizeLine_iff {source rest : Source} {size : Nat} {missing : RequestFault} :
    (∃ line, source.line maxChunkLine missing = .ok line ∧ chunkSize line.text = .ok size ∧
      line.rest = rest) ↔ ∃ bytes, SizeLine size bytes ∧ source = rest.behind bytes := by
  constructor
  · intro framed
    obtain ⟨line, found, read, rfl⟩ := framed
    obtain ⟨bytes, spelled, behind, paid⟩ := Source.line_eq_ok_iff.mp found
    exact ⟨bytes, .intro (chunkSize_eq_ok_iff.mp read) spelled (by omega), behind⟩
  · intro framed
    obtain ⟨bytes, ⟨announced, spelled, short⟩, rfl⟩ := framed
    refine ⟨⟨_, maxChunkLine - bytes.length, rest⟩, ?_, chunkSize_eq_ok_iff.mpr announced, rfl⟩
    exact Source.line_eq_ok_iff.mpr ⟨bytes, spelled, rfl, by dsimp only; omega⟩

theorem chunkData_eq_ok_iff {size : Nat} {source rest : Source} {data : Bytes} :
    chunkData size source = .ok (data, rest) ↔
      data.length = size ∧ source = rest.behind (data ++ [13, 10]) := by
  rw [Source.behind_append]
  constructor
  · intro read
    rw [chunkData] at read
    split at read
    · cases read
    · rename_i block afterData found
      obtain ⟨length, rfl⟩ := Source.exactly_eq_ok_iff.mp found
      split at read
      · cases read
      · rename_i mark after found
        obtain ⟨_, rfl⟩ := Source.exactly_eq_ok_iff.mp found
        split at read
        · rename_i terminated
          obtain ⟨rfl, rfl⟩ := Prod.mk.inj (Except.ok.inj read)
          exact ⟨length, by rw [terminated]⟩
        · cases read
  · intro framed
    obtain ⟨rfl, rfl⟩ := framed
    have first : ((rest.behind [13, 10]).behind data).exactly data.length =
        .ok (data, rest.behind [13, 10]) := Source.exactly_eq_ok_iff.mpr ⟨rfl, rfl⟩
    have second : (rest.behind [13, 10]).exactly 2 = .ok ([13, 10], rest) :=
      Source.exactly_eq_ok_iff.mpr ⟨rfl, rfl⟩
    simp only [chunkData, first, second, ↓reduceIte]

/-- Trailers are skipped exactly up to the empty line behind them. -/
theorem skipTrailers_eq_ok_iff {budget : Nat} {source rest : Source} :
    skipTrailers budget source = .ok rest ↔
      ∃ trailers bytes, "" ∉ trailers ∧ Lines (trailers ++ [""]) bytes ∧ bytes.length ≤ budget ∧
        source = rest.behind bytes := by
  constructor
  · intro read
    induction budget using Nat.strongRecOn generalizing source with
    | ind budget ih =>
      rw [skipTrailers] at read
      split at read
      · cases read
      · rename_i line found
        obtain ⟨bytes, spelled, rfl, paid⟩ := Source.line_eq_ok_iff.mp found
        split at read
        · rename_i blank
          obtain rfl := Except.ok.inj read
          rw [String.isEmpty_iff.mp blank] at spelled
          refine ⟨[], bytes, by simp, ?_, by omega, rfl⟩
          simpa using Lines.cons spelled .nil
        · rename_i nonempty
          obtain ⟨trailers, back, written, lines, fits, behind⟩ :=
            ih line.budget (Source.shrinks_of_line found).1 read
          refine ⟨line.text :: trailers, bytes ++ back, ?_, .cons spelled lines, ?_, ?_⟩
          · rw [List.mem_cons, not_or]
            exact ⟨fun empty => nonempty (String.isEmpty_iff.mpr empty.symm), written⟩
          · rw [List.length_append]
            omega
          · rw [Source.behind_append, behind]
  · intro framed
    obtain ⟨trailers, bytes, written, lines, fits, rfl⟩ := framed
    obtain ⟨left, rfl⟩ := Nat.exists_eq_add_of_le' fits
    clear fits
    induction trailers generalizing bytes with
    | nil =>
      obtain _ | ⟨last, rest⟩ := lines
      cases rest
      rw [List.append_nil, skipTrailers, Source.line_behind last]
      simp
    | cons trailer trailers ih =>
      obtain _ | @⟨_, front, _, back, first, more⟩ := lines
      rw [List.mem_cons, not_or] at written
      have total : left + (front ++ back).length = left + back.length + front.length := by
        rw [List.length_append]
        omega
      have nonempty : trailer.isEmpty = false := by simpa using Ne.symm written.1
      rw [skipTrailers, Source.behind_append, total, Source.line_behind first]
      simpa [nonempty] using ih back written.2 more

/-- The loop ends exactly at a last chunk. -/
theorem nextChunk_eq_none_iff {limits : Limits} {total : Nat} {source rest : Source} :
    nextChunk limits total source = .ok (none, rest) ↔
      ∃ bytes, LastChunk limits bytes ∧ source = rest.behind bytes := by
  constructor
  · intro read
    rw [nextChunk] at read
    split at read
    · cases read
    · rename_i line found
      split at read
      · cases read
      · rename_i size announced
        obtain ⟨front, sized, rfl⟩ := sizeLine_iff.mp ⟨line, found, announced, rfl⟩
        split at read
        · rename_i zero
          subst zero
          cases skipped : skipTrailers limits.maxHeaderBytes line.rest with
          | error error => simp [skipped, Except.map] at read
          | ok after =>
            rw [skipped] at read
            obtain rfl := (Prod.mk.inj (Except.ok.inj read)).2
            obtain ⟨trailers, back, written, lines, fits, behind⟩ :=
              skipTrailers_eq_ok_iff.mp skipped
            refine ⟨front ++ back, .intro sized written lines fits, ?_⟩
            rw [Source.behind_append, behind]
        · split at read
          · cases read
          · cases taken : chunkData size line.rest with
            | error error => simp [taken, Except.map] at read
            | ok block => simp [taken, Except.map] at read
  · intro framed
    obtain ⟨_, ⟨sized, written, lines, fits⟩, rfl⟩ := framed
    rename_i front trailers back
    obtain ⟨line, found, announced, after⟩ := sizeLine_iff.mpr ⟨front, sized, rfl⟩
    have skipped : skipTrailers limits.maxHeaderBytes line.rest = .ok rest := by
      rw [after]
      exact skipTrailers_eq_ok_iff.mpr ⟨trailers, back, written, lines, fits, rfl⟩
    rw [nextChunk, Source.behind_append, found]
    simp only [announced, ↓reduceIte, skipped]
    rfl

/-- The loop goes on exactly with a chunk that keeps to the body limit. -/
theorem nextChunk_eq_some_iff {limits : Limits} {total : Nat} {source rest : Source}
    {data : Bytes} :
    nextChunk limits total source = .ok (some data, rest) ↔
      ∃ front, SizeLine data.length front ∧ data ≠ [] ∧
        total + data.length ≤ limits.maxBodyBytes ∧
        source = rest.behind (front ++ data ++ [13, 10]) := by
  constructor
  · intro read
    rw [nextChunk] at read
    split at read
    · cases read
    · rename_i line found
      split at read
      · cases read
      · rename_i size announced
        obtain ⟨front, sized, rfl⟩ := sizeLine_iff.mp ⟨line, found, announced, rfl⟩
        split at read
        · cases skipped : skipTrailers limits.maxHeaderBytes line.rest with
          | error error => simp [skipped, Except.map] at read
          | ok after => simp [skipped, Except.map] at read
        · rename_i positive
          split at read
          · cases read
          · rename_i bounded
            cases taken : chunkData size line.rest with
            | error error => simp [taken, Except.map] at read
            | ok block =>
              rw [taken] at read
              obtain ⟨same, rfl⟩ := Prod.mk.inj (Except.ok.inj read)
              obtain rfl := Option.some.inj same
              obtain ⟨rfl, behind⟩ := chunkData_eq_ok_iff.mp taken
              refine ⟨front, sized, ?_, Nat.le_of_not_gt bounded, ?_⟩
              · exact fun empty => positive (List.length_eq_zero_iff.mpr empty)
              · rw [List.append_assoc, Source.behind_append, behind]
  · intro framed
    obtain ⟨front, sized, filled, bounded, rfl⟩ := framed
    rw [List.append_assoc, Source.behind_append]
    obtain ⟨line, found, announced, after⟩ := sizeLine_iff.mpr ⟨front, sized, rfl⟩
    have taken : chunkData data.length line.rest = .ok (data, rest) := by
      rw [after]
      exact chunkData_eq_ok_iff.mpr ⟨rfl, rfl⟩
    have positive : data.length ≠ 0 := fun zero => filled (List.length_eq_zero_iff.mp zero)
    rw [nextChunk, found]
    simp only [announced, if_neg positive, if_neg (Nat.not_lt.mpr bounded), taken]
    rfl

/-- Chunks are read exactly off their bytes, up to and with the last one. -/
theorem chunks_eq_ok_iff {limits : Limits} {total : Nat} {source rest : Source} {body : Bytes}
    (begun : total ≤ limits.maxBodyBytes) :
    chunks limits total source = .ok (body, rest) ↔
      ∃ blocks front back, Chunks blocks front ∧ LastChunk limits back ∧ body = blocks.flatten ∧
        total + body.length ≤ limits.maxBodyBytes ∧ source = rest.behind (front ++ back) := by
  constructor
  · intro read
    induction size : source.bytes.length using Nat.strongRecOn generalizing total source body with
    | ind size ih =>
      rw [chunks] at read
      split at read
      · cases read
      · rename_i after found
        obtain ⟨rfl, rfl⟩ := Prod.mk.inj (Except.ok.inj read)
        obtain ⟨back, last, rfl⟩ := nextChunk_eq_none_iff.mp found
        exact ⟨[], [], back, .nil, last, rfl, begun, rfl⟩
      · rename_i data after found
        have shorter := shrinks_of_nextChunk found
        obtain ⟨front, sized, filled, bounded, rfl⟩ := nextChunk_eq_some_iff.mp found
        cases more : chunks limits (total + data.length) after with
        | error error => simp [more, Except.map] at read
        | ok result =>
          rw [more] at read
          obtain ⟨rfl, rfl⟩ := Prod.mk.inj (Except.ok.inj read)
          obtain ⟨blocks, middle, back, following, last, same, within, behind⟩ :=
            ih after.bytes.length (size ▸ shorter) bounded more rfl
          refine ⟨data :: blocks, _, back, .cons sized filled following, last, ?_, ?_, ?_⟩
          · rw [List.flatten_cons, same]
          · rw [List.length_append]
            omega
          · rw [behind, ← Source.behind_append, List.append_assoc _ middle]
  · intro framed
    obtain ⟨blocks, front, back, chain, last, rfl, within, rfl⟩ := framed
    induction chain generalizing total with
    | nil =>
      have found : nextChunk limits total (rest.behind back) = .ok (none, rest) :=
        nextChunk_eq_none_iff.mpr ⟨back, last, rfl⟩
      rw [List.nil_append, chunks]
      split <;> simp_all
    | @cons front data blocks middle sized filled following ih =>
      rw [List.flatten_cons, List.length_append] at within
      have bounded : total + data.length ≤ limits.maxBodyBytes := by omega
      have found : nextChunk limits total
          (rest.behind (front ++ data ++ [13, 10] ++ middle ++ back)) =
          .ok (some data, rest.behind (middle ++ back)) := by
        refine nextChunk_eq_some_iff.mpr ⟨front, sized, filled, bounded, ?_⟩
        rw [List.append_assoc _ middle, Source.behind_append]
      have more := ih bounded (by omega)
      rw [chunks]
      split <;> simp_all [Except.map]

theorem behindLast_of_isBehind {mark : Char} {text : String} {last : List Char}
    (behind : IsBehind mark text.toList last) : behindLast mark text = String.ofList last := by
  rw [behindLast, Text.takeWhile_eq_of_isBefore (Text.isBefore_reverse_iff.mpr behind),
    List.reverse_reverse]

/-- The last transfer coding decides alone whether the body is read, and how. -/
theorem readBody_of_coding {fields : List Field} {limits : Limits} {source : Source}
    {value : String} {last : List Char}
    (coded : joined (valuesOf "Transfer-Encoding" fields) = some value)
    (behind : IsBehind ',' value.toList last) :
    readBody (Headers.ofFields fields) limits source =
      if equalIgnoringCase (String.ofList (Text.trimChars last)) "chunked" then
        chunks limits 0 source
      else .error (.malformedRequest (.unsupportedTransferCoding value)) := by
  have trimmed : Text.trim (behindLast ',' value) = String.ofList (Text.trimChars last) := by
    rw [behindLast_of_isBehind behind, Text.trim, String.toList_ofList]
  rw [readBody, find?_transferEncoding, coded]
  simp only [trimmed]

theorem chunks_eq_ok_iff_chunkedBody {limits : Limits} {source rest : Source} {body : Bytes} :
    chunks limits 0 source = .ok (body, rest) ↔
      ∃ bytes, ChunkedBody limits body bytes ∧ source = rest.behind bytes := by
  rw [chunks_eq_ok_iff (Nat.zero_le _)]
  constructor
  · intro read
    obtain ⟨blocks, front, back, chain, last, rfl, bounded, behind⟩ := read
    rw [Nat.zero_add] at bounded
    exact ⟨front ++ back, .intro chain last bounded, behind⟩
  · intro spelled
    obtain ⟨_, ⟨chain, last, bounded⟩, behind⟩ := spelled
    exact ⟨_, _, _, chain, last, rfl, by rwa [Nat.zero_add], behind⟩

/-- Behind a head whose last coding is chunked, a request is read exactly off a chunked body, and a
declared length would have framed the same body. A head with another last coding is refused. -/
theorem readRequest_chunked_iff {head : Head} {limits : Limits} {headBytes : Bytes}
    {value : String} {last : List Char} (accepted : head.Accepted limits headBytes)
    (coded : joined (valuesOf "Transfer-Encoding" head.fields) = some value)
    (behind : IsBehind ',' value.toList last) (afterHead : Source) :
    if equalIgnoringCase (String.ofList (Text.trimChars last)) "chunked" then
      ∀ request rest,
        (readRequest limits (afterHead.behind headBytes) = .ok (request, rest) ↔
          ∃ body bytes, ChunkedBody limits body bytes ∧ request = head.request body ∧
            afterHead = rest.behind bytes) ∧
        (readRequest limits (afterHead.behind headBytes) = .ok (request, rest) →
          ∀ plain plainBytes, Head.Accepted plain limits plainBytes →
            valuesOf "Transfer-Encoding" plain.fields = [] →
            DeclaresLength plain.fields request.body.length →
            readRequest limits ((rest.behind request.body).behind plainBytes) =
              .ok (plain.request request.body, rest))
    else
      readRequest limits (afterHead.behind headBytes) =
        .error (.malformedRequest (.unsupportedTransferCoding value)) := by
  rw [readRequest_of_accepted accepted, readBody_of_coding coded behind]
  split
  · intro request rest
    have exactly :
        (chunks limits 0 afterHead).map (fun read => (head.request read.1, read.2)) =
          .ok (request, rest) ↔
        ∃ body bytes, ChunkedBody limits body bytes ∧
          request = head.request body ∧ afterHead = rest.behind bytes := by
      constructor
      · intro read
        cases found : chunks limits 0 afterHead with
        | error error => simp [found, Except.map] at read
        | ok result =>
          rw [found] at read
          obtain ⟨rfl, rfl⟩ := Prod.mk.inj (Except.ok.inj read)
          obtain ⟨bytes, spelled, behind⟩ := chunks_eq_ok_iff_chunkedBody.mp found
          exact ⟨result.1, bytes, spelled, rfl, behind⟩
      · intro spelled
        obtain ⟨body, bytes, spelled, rfl, behind⟩ := spelled
        rw [chunks_eq_ok_iff_chunkedBody.mpr ⟨bytes, spelled, behind⟩]
        rfl
    refine ⟨exactly, ?_⟩
    intro read plain plainBytes accepted uncoded declared
    obtain ⟨body, bytes, spelled, rfl, _⟩ := exactly.mp read
    have bounded : body.length ≤ limits.maxBodyBytes := by
      cases spelled with
      | intro _ _ bounded => exact bounded
    have framed := (readBody_lengthFramed_iff uncoded).mpr
      ⟨declared, bounded, (rfl : rest.behind body = rest.behind body)⟩
    rw [readRequest_of_accepted accepted]
    exact congrArg (Except.map _) framed
  · rfl

theorem readRequest_chunked_hello :
    let head : Head := ⟨0, "POST", "/", .http11, [⟨"Transfer-Encoding", " gzip, Chunked"⟩]⟩
    let chunk := crlf ["05;x=1"] ++ Text.toBytes "hello" ++ [13, 10]
    let source : Source := (Source.mk [] .closed).behind (chunk ++ crlf ["0", "X: y", ""])
    readRequest {} (source.behind (crlf head.lines)) =
      .ok (head.request (Text.toBytes "hello"), ⟨[], .closed⟩) := by
  intro head chunk source
  have accepted : head.Accepted {} (crlf head.lines) := by
    refine ⟨by decide, by decide, by decide, by decide, lines_crlf (by decide), by decide⟩
  have coded : joined (valuesOf "Transfer-Encoding" head.fields) = some "gzip, Chunked" := by decide
  have behind : IsBehind ',' ("gzip".toList ++ ',' :: " Chunked".toList) " Chunked".toList :=
    .cut (by decide)
  have five : AnnouncesSize "05;x=1" 5 := chunkSize_eq_ok_iff.mp (by decide)
  have sized : SizeLine (Text.toBytes "hello").length (crlf ["05;x=1"]) :=
    .intro five (.returned (by decide)) (by decide)
  have none : AnnouncesSize "0" 0 := chunkSize_eq_ok_iff.mp (by decide)
  have zero : SizeLine 0 (crlf ["0"]) := .intro none (.returned (by decide)) (by decide)
  have trailers : Lines (["X: y"] ++ [""]) (crlf ["X: y", ""]) := lines_crlf (by decide)
  have last : LastChunk {} (crlf ["0"] ++ crlf ["X: y", ""]) :=
    .intro zero (by decide) trailers (by decide)
  have read := readRequest_chunked_iff accepted coded behind source
  rw [if_pos (by decide)] at read
  have body := ChunkedBody.intro (.cons sized (by decide) .nil) last (by decide)
  exact (read _ _).1.mpr ⟨_, _, body, rfl, rfl⟩

end ScriptHost.Http
