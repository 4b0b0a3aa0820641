import ScriptHost.Http.Url.Host

/-!
What stands between the two slashes of an address and its path: credentials, host and port.
-/
namespace ScriptHost.Http.Url

/-- What stands in front of the host and at it. -/
structure Authority where
  credentials : String
  host : String
  port : Option Nat
  deriving DecidableEq, Repr

/-- The marks that end the authority. -/
def SchemeKind.ends (kind : SchemeKind) : String :=
  if kind.turnsSlashes then "/\\?#" else "/?#"

/-- Credentials in their written form. A password is behind the first colon; if neither it nor the name
has a character, nothing is left. -/
def credentialsText (chars : List Char) : String :=
  let name := escapeCredentials (chars.takeWhile (· != ':'))
  let password := escapeCredentials ((chars.dropWhile (· != ':')).drop 1)
  if password.isEmpty then if name.isEmpty then "" else String.ofList (name ++ ['@'])
  else String.ofList (name ++ ':' :: password ++ ['@'])

/-- Cut host and port apart; colons within brackets belong to the host. -/
def spanHost (inBrackets : Bool) : List Char → List Char × List Char
  | [] => ([], [])
  | char :: rest =>
    if char = ':' ∧ !inBrackets then ([], char :: rest)
    else
      let inBrackets := if char = '[' then true else if char = ']' then false else inBrackets
      let (host, behind) := spanHost inBrackets rest
      (char :: host, behind)

/-- Read a port behind its colon, and give what stands behind it. -/
def readPort (chars : List Char) : Except UrlFault (Option Nat × List Char) :=
  let digits := chars.takeWhile Char.isDigit
  let behind := chars.dropWhile Char.isDigit
  let isEnded := match behind with
    | [] => true
    | mark :: _ => mark == '\\'
  match isEnded, digits, Number.digits? 10 digits with
  | false, _, _ => .error .badPort
  | true, [], _ => .ok (none, behind)
  | true, _, some port => if port < 65536 then .ok (some port, behind) else .error .badPort
  | true, _, none => .error .badPort

/-- Read the authority of an address that is not one of a file. The second result is what stands
between the port and the first mark that ends an authority; `isLast` tells whether nothing does. -/
def readAuthority (scheme : String) (isLast : Bool) (chars : List Char) :
    Except UrlFault (Authority × List Char) := do
  let kind := SchemeKind.of scheme
  let server := (chars.reverse.takeWhile (· != '@')).reverse
  let front := chars.take (chars.length - server.length - 1)
  if chars.contains '@' && front.isEmpty && server.isEmpty && !isLast then .error .emptyHost
  let credentials := credentialsText front
  let (hostChars, behind) := spanHost false server
  if hostChars.isEmpty && kind = .server then .error .emptyHost
  let host ← if kind = .server then serverHost hostChars else anyHost hostChars
  if host.isEmpty && !behind.isEmpty then .error .emptyHost
  let (port, rest) ← readPort (behind.drop 1)
  if host.isEmpty && !credentials.isEmpty then .error .emptyHost
  return (⟨credentials, host, port.filter fun port => some port != schemePort? scheme⟩, rest)

end ScriptHost.Http.Url
