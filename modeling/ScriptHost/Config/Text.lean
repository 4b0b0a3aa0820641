import ScriptHost.Config.Basic
import ScriptHost.Toml.Document

/-!
Settings as a TOML document. A setting that is left out has its standard value, and a key that means
nothing is passed over. A section is a table, or an array of the values in the order of the fields.
-/
namespace ScriptHost

namespace Config

/-- A field of a section: by its name out of a table, by its position out of an array. -/
def field? (position : Nat) (name : String) : Toml → Option Toml
  | .table _ entries => Toml.Entries.find? entries name
  | .array items => items[position]?
  | .tables earlier last => (earlier ++ [.table .header last])[position]?
  | _ => none

/-- Whether a value has fields. A date counts as having some, none of which is a setting. -/
def isSection : Toml → Bool
  | .table _ _ | .array _ | .tables _ _ | .dateTime => true
  | _ => false

/-- A number that is not negative. -/
def natOr? (standard : Nat) : Option Toml → Option Nat
  | none => some standard
  | some (.integer number) => if 0 ≤ number then some number.toNat else none
  | some _ => none

def boolOr? (standard : Bool) : Option Toml → Option Bool
  | none => some standard
  | some (.boolean truth) => some truth
  | some _ => none

def stringOrNone? : Option Toml → Option (Option String)
  | none => some none
  | some (.string text) => some (some text)
  | some _ => none

/-- Read a section, standard throughout if it is left out. -/
def sectionOr? (standard : Settings) (read : Toml → Option Settings) : Option Toml → Option Settings
  | none => some standard
  | some value => if isSection value then read value else none

/-- Read the settings of the HTTP client and server. -/
def httpOf? (value : Toml) : Option HttpSettings := do
  let standard : HttpSettings := {}
  let clientTimeout ← natOr? standard.clientTimeout (field? 0 "client_timeout_ms" value)
  let maxHeaderBytes ← natOr? standard.maxHeaderBytes (field? 1 "max_header_bytes" value)
  let maxBodyBytes ← natOr? standard.maxBodyBytes (field? 2 "max_body_bytes" value)
  let acceptPoll ← natOr? standard.acceptPoll (field? 3 "accept_poll_ms" value)
  let proxyFromEnv ← boolOr? standard.proxyFromEnv (field? 4 "proxy_from_env" value)
  let requestTimeout ← natOr? standard.requestTimeout (field? 5 "request_read_timeout_ms" value)
  return { clientTimeout, maxHeaderBytes, maxBodyBytes, acceptPoll, proxyFromEnv, requestTimeout }

/-- Read the settings of sockets. -/
def netOf? (value : Toml) : Option NetSettings := do
  let standard : NetSettings := {}
  return { acceptPoll := ← natOr? standard.acceptPoll (field? 0 "accept_poll_ms" value) }

/-- Read all settings out of the table of a document. -/
def ofEntries? (entries : Toml.Entries) : Option Config := do
  let execRoot ← stringOrNone? (Toml.Entries.find? entries "exec_root")
  let http ← sectionOr? {} httpOf? (Toml.Entries.find? entries "http")
  let net ← sectionOr? {} netOf? (Toml.Entries.find? entries "net")
  return { execRoot, http, net }

/-- Read settings. -/
def ofText? (text : String) : Option Config := (Toml.ofText? text).bind ofEntries?

/-- The line of a setting. -/
def line (name value : String) : String := name ++ " = " ++ value ++ "\n"

def boolText (truth : Bool) : String := if truth then "true" else "false"

/-- The section of the HTTP client and server. -/
def httpText (http : HttpSettings) : String :=
  "[http]\n" ++ line "client_timeout_ms" (toString http.clientTimeout) ++
    line "max_header_bytes" (toString http.maxHeaderBytes) ++
    line "max_body_bytes" (toString http.maxBodyBytes) ++
    line "accept_poll_ms" (toString http.acceptPoll) ++
    line "proxy_from_env" (boolText http.proxyFromEnv) ++
    line "request_read_timeout_ms" (toString http.requestTimeout)

/-- The section of sockets. -/
def netText (net : NetSettings) : String :=
  "[net]\n" ++ line "accept_poll_ms" (toString net.acceptPoll)

/-- All settings, the exec root in front of the sections. -/
def text (config : Config) : String :=
  (match config.execRoot with
    | some root => line "exec_root" (String.ofList (Toml.quote root.toList)) ++ "\n"
    | none => "") ++
    httpText config.http ++ "\n" ++ netText config.net

end Config

end ScriptHost
