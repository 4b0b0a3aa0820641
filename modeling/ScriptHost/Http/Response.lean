import ScriptHost.Http.Header
import ScriptHost.Http.Version
import ScriptHost.Number.Count

/-!
Responses as they are written. The writer alone decides on length and connection headers, and
headers that could break the framing are refused beforehand.
-/
namespace ScriptHost.Http

/-- A response to be written. -/
structure Response where
  version : Version
  status : Nat
  headers : Headers
  body : Bytes

/-- What is wrong with one response header. -/
def headerFault? (name value : String) : Option ArgumentFault :=
  if !isToken name then some (.badHeaderName name)
  else if value.toList.any fun char => char == '\r' || char == '\n' then
    some (.lineBreakInHeader name)
  else if Text.equalIgnoringCase name "content-length" &&
      (Number.decimal? (Text.trim value)).isNone then
    some (.badContentLength value)
  else none

/-- Refuse headers that would break the framing; the first fault in name order counts. -/
def Headers.validate (headers : Headers) : Except HostError Unit :=
  match headers.entries.findSome? fun (name, value) => headerFault? name value with
  | some fault => .error (.invalidArgument fault)
  | none => .ok ()

/-- Informational replies, 204 and 304 never have a body. -/
def forbidsBody (status : Nat) : Bool :=
  (100 ≤ status && status < 200) || status == 204 || status == 304

/-- Check a status code that a program gives. -/
def statusOf (status : Int) : Except HostError Nat :=
  if 100 ≤ status ∧ status ≤ 999 then .ok status.toNat
  else .error (.invalidArgument (.statusOutOfRange status))

/-- Whether a caller's header is written: never a connection header, and a length only when the
reply describes a body that is left out. -/
def keepsHeader (status : Nat) (omitBody : Bool) (name : String) : Bool :=
  if Text.equalIgnoringCase name "connection" then false
  else if Text.equalIgnoringCase name "content-length" then !forbidsBody status && omitBody
  else true

namespace Response

/-- The caller's headers that are written. -/
def keptHeaders (response : Response) (omitBody : Bool) : List (String × String) :=
  response.headers.entries.filter fun entry => keepsHeader response.status omitBody entry.1

/-- The header lines: those kept, the body's length unless one is kept, and the end of the
connection. -/
def headerLines (response : Response) (omitBody : Bool) : List (String × String) :=
  let kept := response.keptHeaders omitBody
  let hasLength := kept.any fun entry => Text.equalIgnoringCase entry.1 "content-length"
  kept ++
    (if !forbidsBody response.status && !hasLength then
      [("Content-Length", toString response.body.length)] else []) ++
    [("Connection", "close")]

/-- The status line and header lines, up to and with the empty line. -/
def head (response : Response) (omitBody : Bool) : String :=
  response.version.text ++ " " ++ toString response.status ++ " " ++
    reasonPhrase response.status ++ "\r\n" ++
    String.join ((response.headerLines omitBody).map fun (name, value) =>
      name ++ ": " ++ value ++ "\r\n") ++ "\r\n"

/-- All bytes of the response. -/
def toBytes (response : Response) (omitBody : Bool) : Bytes :=
  Text.toBytes (response.head omitBody) ++
    if !omitBody && !forbidsBody response.status then response.body else []

end Response

end ScriptHost.Http
