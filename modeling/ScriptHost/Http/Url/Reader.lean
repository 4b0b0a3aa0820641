import ScriptHost.Http.Url.Authority
import ScriptHost.Http.Url.Path

/-!
Reading an absolute address, which brings it into its written form: scheme and host in small letters,
the scheme's own port left out, dot segments resolved and other characters escaped.
-/
namespace ScriptHost.Http.Url

/-- Query and fragment behind the path. -/
def queryAndFragment (kind : SchemeKind) (chars : List Char) : Option String × Option String :=
  match chars with
  | '?' :: rest =>
    let (query, behind) := spanUntil "#" rest
    (some (String.ofList (escapeQuery kind query)),
      behind.tail?.map fun fragment => String.ofList (escapeFragment fragment))
  | '#' :: rest => (none, some (String.ofList (escapeFragment rest)))
  | _ => (none, none)

/-- Whether a character may stand in a scheme behind its first letter. -/
def isSchemeChar (char : Char) : Bool := char.isAlphanum || "+-.".toList.contains char

/-- The path behind an authority. -/
def pathBehind (kind : SchemeKind) (chars : List Char) : String :=
  match chars with
  | [] => if kind = .other then "" else "/"
  | mark :: rest =>
    let isSlash := mark == '/' || (mark == '\\' && kind.turnsSlashes)
    pathText (segments kind (if isSlash then rest else chars))

/-- Read an address with an authority, behind the slashes in front of it. -/
def readHosted (scheme : String) (chars : List Char) : Except UrlFault Url := do
  let kind := SchemeKind.of scheme
  let (front, rest) := spanUntil kind.ends chars
  let (authority, between) ← readAuthority scheme rest.isEmpty front
  let (path, rest) := spanUntil "?#" rest
  let (query, fragment) := queryAndFragment kind rest
  return { scheme, query, fragment
           credentials := authority.credentials
           host := some authority.host
           port := authority.port
           path := pathBehind kind (between ++ path) }

/-- Read the address of a file behind its scheme. A host is dropped where the path names a drive. -/
def readFile (chars : List Char) : Except UrlFault Url := do
  let (front, rest) := spanUntil "?#" chars
  let (query, fragment) := queryAndFragment .file rest
  let slashed := front.map fun char => if char = '\\' then '/' else char
  let (host, behind) ← match slashed with
    | '/' :: '/' :: behind => do
      let hostChars := behind.takeWhile (· != '/')
      if isDrive hostChars then pure ("", behind)
      else
        let host ← fileHost hostChars
        pure (host, behind.drop (hostChars.length + 1))
    | '/' :: behind => pure ("", behind)
    | behind => pure ("", behind)
  let parts := segments .file behind
  let host := if parts.head?.any isDrive then "" else host
  return { scheme := "file", host := some host, path := pathText (dropEmpty parts), query, fragment }

/-- Read an address of any other scheme, behind it. -/
def readOther (scheme : String) (chars : List Char) : Url :=
  let (front, rest) := spanUntil "?#" chars
  let (query, fragment) := queryAndFragment .other rest
  let path := match front with
    | '/' :: behind => pathText (segments .other behind)
    | behind => String.ofList (escape "" behind)
  { scheme, path, query, fragment }

/-- Read an absolute address. Blanks around it and line breaks and tabs in it are dropped. -/
def ofText (text : String) : Except UrlFault Url :=
  let isEdge := fun char : Char => char.toNat ≤ 0x20
  let trimmed := ((text.toList.dropWhile isEdge).reverse.dropWhile isEdge).reverse
  let chars := trimmed.filter fun char => char != '\t' && char != '\n' && char != '\r'
  let (schemeChars, rest) := (chars.takeWhile isSchemeChar, chars.dropWhile isSchemeChar)
  match schemeChars, rest with
  | first :: _, ':' :: rest =>
    if !first.isAlpha then .error .relative
    else
      let scheme := String.ofList (schemeChars.map Char.toLower)
      match SchemeKind.of scheme, rest with
      | .server, rest =>
        readHosted scheme (rest.dropWhile fun char => char == '/' || char == '\\')
      | .file, rest => readFile rest
      | .other, '/' :: '/' :: rest => readHosted scheme rest
      | .other, rest => .ok (readOther scheme rest)
  | _, _ => .error .relative

end ScriptHost.Http.Url
