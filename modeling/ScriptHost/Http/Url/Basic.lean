import ScriptHost.Http.Fault
import ScriptHost.Number.Count
import ScriptHost.Text.Utf8

/-!
Absolute addresses and their text, and the escapes for characters that have no place in it.
-/
namespace ScriptHost.Http

/-- An absolute address in its written form. -/
structure Url where
  scheme : String
  /-- Name and password, up to and with the sign in front of the host. -/
  credentials : String := ""
  /-- The host; empty where there is room for one but none is named. -/
  host : Option String := none
  port : Option Nat := none
  path : String
  query : Option String := none
  fragment : Option String := none
  deriving DecidableEq, Repr

namespace Url

/-- Whether an address names a host. -/
def hasHost (url : Url) : Bool := url.host.any (· != "")

/-- What stands between scheme and path. A path that could be taken for a host is kept apart. -/
def authority (url : Url) : String :=
  match url.host with
  | some host => "//" ++ url.credentials ++ host ++ match url.port with
    | some port => s!":{port}"
    | none => ""
  | none => if url.path.startsWith "//" then "/." else ""

/-- A part behind its mark, if it is there. -/
def optional (mark : String) : Option String → String
  | some part => mark ++ part
  | none => ""

/-- The address as one text. -/
def text (url : Url) : String :=
  url.scheme ++ ":" ++ url.authority ++ url.path ++ optional "?" url.query ++
    optional "#" url.fragment

/-- What the rest of an address looks like, by its scheme. -/
inductive SchemeKind where
  /-- The scheme of servers. -/
  | server
  | file
  | other
  deriving DecidableEq, Repr

/-- The ports of the schemes of servers. -/
def schemePort? (scheme : String) : Option Nat :=
  match scheme with
  | "http" | "ws" => some 80
  | "https" | "wss" => some 443
  | "ftp" => some 21
  | _ => none

def SchemeKind.of (scheme : String) : SchemeKind :=
  if scheme == "file" then .file
  else if (schemePort? scheme).isSome then .server
  else .other

/-- Whether a backslash is taken for a slash. -/
def SchemeKind.turnsSlashes (kind : SchemeKind) : Bool := kind != .other

/-- A byte as an escape. -/
def escapeByte (byte : UInt8) : List Char :=
  let digit := fun number : Nat => (Nat.toDigits 16 number).map Char.toUpper
  '%' :: digit (byte.toNat / 16) ++ digit (byte.toNat % 16)

/-- Escape control characters, all beyond ASCII, and the given ones. -/
def escape (marks : String) (chars : List Char) : List Char :=
  chars.flatMap fun char =>
    if char.toNat < 0x20 || 0x7E < char.toNat || marks.toList.contains char then
      (String.utf8EncodeChar char).flatMap escapeByte
    else [char]

def escapeFragment : List Char → List Char := escape " \"<>\x60"

def escapePath : List Char → List Char := escape " \"<>\x60#?\x7b\x7d"

def escapeCredentials : List Char → List Char := escape " \"<>\x60#?\x7b\x7d/:;=@[\\]^|"

def escapeQuery (kind : SchemeKind) : List Char → List Char :=
  escape (if kind = .other then " \"#<>" else " \"#<>'")

/-- The byte of two hexadecimal digits. -/
def hexByte? (high low : Char) : Option UInt8 :=
  (Number.digits? 16 [high, low]).map UInt8.ofNat

/-- The bytes of a text whose escapes are undone. -/
def percentDecode : List Char → Bytes
  | '%' :: high :: low :: rest =>
    match hexByte? high low with
    | some byte => byte :: percentDecode rest
    | none => Text.encode ['%'] ++ percentDecode (high :: low :: rest)
  | char :: rest => String.utf8EncodeChar char ++ percentDecode rest
  | [] => []
  termination_by chars => chars.length

/-- Cut at the first of some characters; the character stays in front of the rest. -/
def spanUntil (marks : String) (chars : List Char) : List Char × List Char :=
  (chars.takeWhile (!marks.toList.contains ·), chars.dropWhile (!marks.toList.contains ·))

end Url

end ScriptHost.Http
