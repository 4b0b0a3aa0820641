import ScriptHost.Http.Header
import ScriptHost.Http.Source
import ScriptHost.Number.Count
import ScriptHost.Text.Split

/-!
How the body of a request is framed: chunk by chunk, by its declared length, or not at all. Every
chunk size line has a budget of its own; the body limit bounds the chunks.
-/
namespace ScriptHost.Http

/-- How much of a request is read at most. -/
structure Limits where
  maxHeaderBytes : Nat := 65536
  maxBodyBytes : Nat := 16777216
  deriving DecidableEq, Repr

/-- The longest chunk size line, its terminator included. -/
def maxChunkLine : Nat := 4096

/-- The part of a text before the first given character. -/
def before (mark : Char) (text : String) : String :=
  String.ofList (text.toList.takeWhile (· != mark))

/-- The part of a text behind the last given character. -/
def behindLast (mark : Char) (text : String) : String :=
  String.ofList (text.toList.reverse.takeWhile (· != mark)).reverse

/-- Read trailer lines up to the empty one and forget them. -/
def skipTrailers (budget : Nat) (source : Source) : Except HostError Source :=
  match _ : source.line budget .closedInTrailers with
  | .error error => .error error
  | .ok line =>
    if line.text.isEmpty then .ok line.rest else skipTrailers line.budget line.rest
  termination_by budget
  decreasing_by exact (Source.shrinks_of_line ‹_›).1

/-- The size that a chunk size line announces; what follows a semicolon is ignored. -/
def chunkSize (line : String) : Except HostError Nat :=
  let sizeText := Text.trim (before ';' line)
  match Number.hexadecimal? sizeText with
  | some size => .ok size
  | none => .error (.malformedRequest (.badChunkSize sizeText))

/-- Read the data of a chunk and the line break behind it. -/
def chunkData (size : Nat) (source : Source) : Except HostError (Bytes × Source) :=
  match source.exactly size with
  | .error error => .error error
  | .ok (data, afterData) =>
    match afterData.exactly 2 with
    | .error error => .error error
    | .ok (mark, rest) =>
      if mark = [13, 10] then .ok (data, rest) else .error (.malformedRequest .chunkNotTerminated)

theorem length_of_chunkData {size : Nat} {source rest : Source} {data : Bytes}
    (found : chunkData size source = .ok (data, rest)) :
    rest.bytes.length + size + 2 = source.bytes.length := by
  unfold chunkData at found
  split at found
  · contradiction
  · rename_i dataFound
    split at found
    · contradiction
    · rename_i markFound
      split at found
      · simp only [Except.ok.injEq, Prod.mk.injEq] at found
        have := Source.length_of_exactly dataFound
        have := Source.length_of_exactly markFound
        rw [← found.2]; omega
      · contradiction

/-- Read one chunk behind a body of `total` bytes, or the chunk of size zero with its trailers. -/
def nextChunk (limits : Limits) (total : Nat) (source : Source) :
    Except HostError (Option Bytes × Source) :=
  match source.line maxChunkLine .closedInChunks with
  | .error error => .error error
  | .ok line =>
    match chunkSize line.text with
    | .error error => .error error
    | .ok size =>
      if size = 0 then (skipTrailers limits.maxHeaderBytes line.rest).map fun rest => (none, rest)
      else if total + size > limits.maxBodyBytes then
        .error (.malformedRequest (.chunksTooLarge limits.maxBodyBytes))
      else (chunkData size line.rest).map fun (data, rest) => (some data, rest)

theorem shrinks_of_nextChunk {limits : Limits} {total : Nat} {source rest : Source} {data : Bytes}
    (found : nextChunk limits total source = .ok (some data, rest)) :
    rest.bytes.length < source.bytes.length := by
  unfold nextChunk at found
  generalize maxChunkLine = budget at found
  split at found
  · cases found
  · rename_i line lineFound
    have shorter := (Source.shrinks_of_line lineFound).2
    split at found
    · cases found
    · rename_i size _
      split at found
      · cases trailers : skipTrailers limits.maxHeaderBytes line.rest <;>
          simp [trailers, Except.map] at found
      · split at found
        · cases found
        · cases dataFound : chunkData size line.rest with
          | error error => simp [dataFound, Except.map] at found
          | ok block =>
            have shorter : block.2.bytes.length + size + 2 = line.rest.bytes.length :=
              length_of_chunkData dataFound
            simp only [dataFound, Except.map, Except.ok.injEq, Prod.mk.injEq] at found
            rw [← found.2]; omega

/-- Read chunks behind a body of `total` bytes up to the one of size zero. -/
def chunks (limits : Limits) (total : Nat) (source : Source) : Except HostError (Bytes × Source) :=
  match _ : nextChunk limits total source with
  | .error error => .error error
  | .ok (none, rest) => .ok ([], rest)
  | .ok (some data, rest) =>
    (chunks limits (total + data.length) rest).map fun (more, rest) => (data ++ more, rest)
  termination_by source.bytes.length
  decreasing_by exact shrinks_of_nextChunk ‹_›

/-- Read the body that the headers announce. A transfer coding comes before a length. -/
def readBody (headers : Headers) (limits : Limits) (source : Source) :
    Except HostError (Bytes × Source) :=
  match headers.find? "Transfer-Encoding" with
  | some coding =>
    if Text.equalIgnoringCase (Text.trim (behindLast ',' coding)) "chunked" then
      chunks limits 0 source
    else .error (.malformedRequest (.unsupportedTransferCoding coding))
  | none =>
    match headers.find? "Content-Length" with
    | none => .ok ([], source)
    | some value =>
      match Number.decimal? (Text.trim value) with
      | none => .error (.malformedRequest (.badContentLength value))
      | some length =>
        if length > limits.maxBodyBytes then
          .error (.malformedRequest (.bodyTooLarge length limits.maxBodyBytes))
        else source.exactly length

end ScriptHost.Http
