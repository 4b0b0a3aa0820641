import ScriptHost.Http.Source

/-!
Reading a request from a peer that may be slow. A read that finds nothing is tried again until the
deadline has passed or the listener is gone; what arrives is never turned away.
-/
namespace ScriptHost.Http

/-- How one system read on a connection ends. -/
inductive ReadOutcome where
  | data (bytes : Bytes)
  | wouldBlock
  | timedOut
  | interrupted
  | endOfStream
  | failure (cause : IoCause)
  deriving DecidableEq, Repr

/-- A system read, when it ended, and whether the listener was still open then. -/
structure TimedRead where
  outcome : ReadOutcome
  clock : Nat
  listenerOpen : Bool
  deriving DecidableEq, Repr

/-- Nothing has been decided yet: the peer may still send. -/
def undecided : IoCause := .os .wouldBlock

/-- One read of a patient reader: system reads until one counts. Gives what it saw, when, and the
reads that are left. -/
def patientRead (deadline : Nat) : List TimedRead →
    Option (Except IoCause Bytes × Nat × List TimedRead)
  | [] => none
  | read :: rest =>
    match read.outcome with
    | .data bytes => some (.ok bytes, read.clock, rest)
    | .endOfStream => some (.ok [], read.clock, rest)
    | .failure cause => some (.error cause, read.clock, rest)
    | .interrupted => patientRead deadline rest
    | .wouldBlock | .timedOut =>
      if !read.listenerOpen then some (.error .listenerClosed, read.clock, rest)
      else if deadline ≤ read.clock then some (.error .notInTime, read.clock, rest)
      else patientRead deadline rest

/-- Everything that a patient reader gets out of a connection. -/
def patientSource (deadline : Nat) : List TimedRead → Source
  | [] => ⟨[], .failed undecided⟩
  | read :: rest =>
    match read.outcome with
    | .data [] | .endOfStream => ⟨[], .closed⟩
    | .data bytes =>
      let source := patientSource deadline rest
      { source with bytes := bytes ++ source.bytes }
    | .failure cause => ⟨[], .failed cause⟩
    | .interrupted => patientSource deadline rest
    | .wouldBlock | .timedOut =>
      if !read.listenerOpen then ⟨[], .failed .listenerClosed⟩
      else if deadline ≤ read.clock then ⟨[], .failed .notInTime⟩
      else patientSource deadline rest

end ScriptHost.Http
