import ScriptHost.Domain.Name
import ScriptHost.Http.Url.Basic
import ScriptHost.Network.Address

/-!
The host of an address: a domain name in the letters of ASCII, or an internet address in its one
written form. Where the scheme does not tell what hosts are, any text will do that has no other
meaning in an address.
-/
namespace ScriptHost.Http.Url

/-- The host within brackets, given what stands behind the first. -/
def bracketedHost (rest : List Char) : Except UrlFault String :=
  if rest.getLast? = some ']' then
    match Address.ipv6? rest.dropLast with
    | some pieces => .ok (Address.ipv6Text pieces)
    | none => .error .badIpv6
  else .error .badIpv6

/-- The host of a server. -/
def serverHost (chars : List Char) : Except UrlFault String :=
  match chars with
  | '[' :: rest => bracketedHost rest
  | chars =>
    match Text.decode (percentDecode chars) with
    | .error _ => .error .badInternationalDomain
    | .ok decoded =>
      match Domain.toAscii? decoded with
      | none => .error .badInternationalDomain
      | some [] => .error .emptyHost
      | some name =>
        if Address.endsInNumber name then
          match Address.ofParts? (Address.nameParts name) with
          | some address => .ok (Address.ipv4Text address)
          | none => .error .badIpv4
        else .ok (String.ofList name)

/-- Characters that have another meaning in an address or none. -/
def isForbiddenInHost (char : Char) : Bool :=
  "\x00\t\n\r #/:<>?@[\\]^|".toList.contains char

/-- The host of an address whose scheme does not tell what hosts are. -/
def anyHost (chars : List Char) : Except UrlFault String :=
  match chars with
  | '[' :: rest => bracketedHost rest
  | chars =>
    if chars.any isForbiddenInHost then .error .badDomain
    else .ok (String.ofList (escape "" chars))

/-- The host of a file; this machine is not named. -/
def fileHost (chars : List Char) : Except UrlFault String :=
  if chars.isEmpty then .ok ""
  else (serverHost chars).map fun host => if host == "localhost" then "" else host

end ScriptHost.Http.Url
