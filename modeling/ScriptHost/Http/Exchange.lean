import ScriptHost.Error.Host
import ScriptHost.Http.Header
import ScriptHost.Http.Url.Reader

/-!
Requests that a program sends. What cannot be sent is refused before anything leaves; the exchange
itself is left to whatever reaches the server.
-/
namespace ScriptHost.Http

/-- A request ready to be sent. -/
structure Outgoing where
  method : String
  url : Url
  headers : Headers
  body : Option Bytes

/-- An answer as it came in: its headers in order, names in any spelling. -/
structure Answer where
  status : Nat
  headers : List (String × String)
  body : Bytes

/-- Whatever reaches servers. -/
abbrev Transport := Outgoing → Except ExchangeFault Answer

/-- Whether a character may stand in a header value that is sent. -/
def isSendable (char : Char) : Bool := char == '\t' || (0x20 ≤ char.toNat && char.toNat != 0x7F)

/-- Whether a header can be sent. -/
def isSendableHeader (name value : String) : Bool :=
  isToken name && name.length ≤ 65535 && value.toList.all isSendable

/-- The address without its credentials, which are sent in a header. They stay where the name in them
is no text, or where there is only a password and that is none. -/
def Url.withoutCredentials (url : Url) : Url :=
  let isText := fun chars : List Char => (Text.decode (Url.percentDecode chars)).isOk
  let name := url.credentials.toList.takeWhile fun char => char != ':' && char != '@'
  let password := (url.credentials.toList.drop name.length).takeWhile (· != '@')
  let isKept := !isText name || (name.isEmpty && (password.isEmpty || !isText password))
  if isKept then url else { url with credentials := "" }

/-- How long an address may be that is asked. -/
def mostAsked : Nat := 65534

/-- Whether an address can be asked. -/
def Url.isAskable (url : Url) : Bool :=
  (url.scheme == "http" || url.scheme == "https") &&
    url.text.utf8ByteSize ≤ mostAsked &&
    !url.host.any fun host => host.toList.any ("\"\x60\x7b\x7d".toList.contains ·)

/-- Make a request ready. -/
def Outgoing.prepare (method url : String) (headers : Headers) (body : Option Bytes) :
    Except HostError Outgoing :=
  if !isToken method then .error (.invalidArgument (.badMethod method))
  else match Url.ofText url with
    | .error fault => .error (.invalidArgument (.badUrl url fault))
    | .ok parsed =>
      let parsed := parsed.withoutCredentials
      if !parsed.hasHost then .error (.http (.unaskable parsed.text))
      else if !headers.entries.all fun (name, value) => isSendableHeader name value then
        .error (.http .unsendable)
      else if !parsed.isAskable then .error (.http (.unaskable parsed.text))
      else .ok { method, url := parsed, headers, body }

/-- The headers of an answer under their canonical names, repeated ones joined. -/
def Answer.headerMap (answer : Answer) : Headers :=
  answer.headers.foldl (fun headers (name, value) => headers.add (canonicalName name) value)
    SortedMap.empty

/-- Send a request and wait for the whole answer. -/
def exchange (transport : Transport) (method url : String) (headers : Headers)
    (body : Option Bytes) : Except HostError Answer :=
  match Outgoing.prepare method url headers body with
  | .error error => .error error
  | .ok outgoing =>
    match transport outgoing with
    | .ok answer => .ok answer
    | .error fault => .error (.http fault)

end ScriptHost.Http
