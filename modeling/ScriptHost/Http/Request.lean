import ScriptHost.Http.Body
import ScriptHost.Http.Version

/-!
Requests as they arrive: a request line, header lines up to an empty one, and a body. Request line
and headers share one budget.
-/
namespace ScriptHost.Http

/-- A request taken off a connection. -/
structure Request where
  method : String
  /-- The target as sent, with its query. -/
  target : String
  /-- The target before the first question mark. -/
  path : String
  version : Version
  headers : Headers
  body : Bytes

/-- The value of a header under any spelling of its name. -/
def Request.header? (request : Request) (name : String) : Option String :=
  request.headers.value? name

/-- Method, target and version of a request. -/
structure RequestLine where
  method : String
  target : String
  version : Version
  deriving DecidableEq, Repr

/-- Cut a text at the first given character. -/
def cutAtChar? (mark : Char) (text : String) : Option (String × String) :=
  (Text.cutAt? [mark] text.toList).map fun cut => (String.ofList cut.1, String.ofList cut.2)

/-- Read a request line: method, target and version with one space between. -/
def RequestLine.ofText (line : String) : Except HostError RequestLine :=
  match (cutAtChar? ' ' line).bind fun (method, rest) =>
      (cutAtChar? ' ' rest).map fun (target, version) => (method, target, version) with
  | none => .error (.malformedRequest (.badRequestLine line))
  | some (method, target, version) =>
    if method.isEmpty || target.isEmpty then .error (.malformedRequest (.badRequestLine line))
    else if !isToken method then .error (.malformedRequest (.badMethod method))
    else (Version.ofText version).map fun version => ⟨method, target, version⟩

/-- Add the header of one line. -/
def Headers.addLine (headers : Headers) (line : String) : Except HostError Headers :=
  if line.startsWith " " || line.startsWith "\t" then .error (.malformedRequest .foldedHeader)
  else match cutAtChar? ':' line with
    | none => .error (.malformedRequest (.headerWithoutColon line))
    | some (name, value) =>
      if isToken name then .ok (headers.add (canonicalName name) (Text.trim value))
      else .error (.malformedRequest (.badHeaderName name))

/-- Take the first line that is not empty. -/
def firstLine (budget : Nat) (source : Source) : Except HostError Line :=
  match _ : source.line budget .closedBeforeRequestLine with
  | .error error => .error error
  | .ok line => if line.text.isEmpty then firstLine line.budget line.rest else .ok line
  termination_by budget
  decreasing_by exact (Source.shrinks_of_line ‹_›).1

/-- Read header lines up to the empty one. -/
def readHeaders (headers : Headers) (budget : Nat) (source : Source) :
    Except HostError (Headers × Source) :=
  match _ : source.line budget .closedInHeaders with
  | .error error => .error error
  | .ok line =>
    if line.text.isEmpty then .ok (headers, line.rest)
    else match headers.addLine line.text with
      | .error error => .error error
      | .ok more => readHeaders more line.budget line.rest
  termination_by budget
  decreasing_by exact (Source.shrinks_of_line ‹_›).1

/-- Read one request and leave what follows it. -/
def readRequest (limits : Limits) (source : Source) : Except HostError (Request × Source) := do
  let line ← firstLine limits.maxHeaderBytes source
  let requestLine ← RequestLine.ofText line.text
  let (headers, afterHead) ← readHeaders SortedMap.empty line.budget line.rest
  let (body, rest) ← readBody headers limits afterHead
  return ({
    method := requestLine.method
    target := requestLine.target
    path := before '?' requestLine.target
    version := requestLine.version
    headers
    body }, rest)

end ScriptHost.Http
