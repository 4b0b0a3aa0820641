import ScriptHost.Config.Text
import ScriptHost.Proofs.Toml.Integers
import ScriptHost.Proofs.Toml.PlainDocuments

/-! Settings survive being written down. A document that gives some settings their values, in whatever
order and with whatever else in it, is read as these settings and the standard ones; and the written
form of all settings is such a document. -/
namespace ScriptHost.Config

open Toml (Statement Entries Gives Line Plain)

/-- What can be settled. -/
inductive Setting where
  | execRoot
  | clientTimeout
  | maxHeaderBytes
  | maxBodyBytes
  | requestPoll
  | proxyFromEnv
  | requestTimeout
  | socketPoll
  deriving DecidableEq

namespace Setting

/-- Where a setting is written: the exec root in front of the sections, all else in a section. -/
def path : Setting → List String
  | execRoot => ["exec_root"]
  | clientTimeout => ["http", "client_timeout_ms"]
  | maxHeaderBytes => ["http", "max_header_bytes"]
  | maxBodyBytes => ["http", "max_body_bytes"]
  | requestPoll => ["http", "accept_poll_ms"]
  | proxyFromEnv => ["http", "proxy_from_env"]
  | requestTimeout => ["http", "request_read_timeout_ms"]
  | socketPoll => ["net", "accept_poll_ms"]

/-- What is written for a setting; nothing for an exec root that is not settled. -/
def value? (config : Config) : Setting → Option Toml
  | execRoot => config.execRoot.map .string
  | clientTimeout => some (.integer config.http.clientTimeout)
  | maxHeaderBytes => some (.integer config.http.maxHeaderBytes)
  | maxBodyBytes => some (.integer config.http.maxBodyBytes)
  | requestPoll => some (.integer config.http.acceptPoll)
  | proxyFromEnv => some (.boolean config.http.proxyFromEnv)
  | requestTimeout => some (.integer config.http.requestTimeout)
  | socketPoll => some (.integer config.net.acceptPoll)

end Setting

/-- The values of the settings that are given. -/
def given (config : Config) (chosen : Setting → Bool) (setting : Setting) : Option Toml :=
  if chosen setting then setting.value? config else none

/-- All settings that are not chosen have their standard values. -/
def StandardBut (config : Config) (chosen : Setting → Bool) : Prop :=
  ∀ setting, chosen setting = false → setting.value? config = setting.value? {}

/-- Statements give the chosen settings their values and no others; beside that they may say
anything. -/
def GivenBy (config : Config) (chosen : Setting → Bool) (statements : List Statement) : Prop :=
  ∀ setting : Setting, Gives setting.path [] statements (config.given chosen setting)

/-! Reading tables. -/

section

variable {config : Config} {chosen : Setting → Bool}

/-- A reading that takes what is left out for the standard value makes the same of what is given as of
all settings. -/
theorem read_given {Result : Type} (read : Option Toml → Result) (setting : Setting)
    (standardBut : config.StandardBut chosen) (standard : read none = read (setting.value? {})) :
    read (config.given chosen setting) = read (setting.value? config) := by
  cases choice : chosen setting with
  | true => rw [given, choice, if_pos rfl]
  | false =>
    rw [standardBut setting choice, ← standard, given, choice]
    rfl

@[simp] theorem natOr?_natCast (standard number : Nat) :
    natOr? standard (some (.integer number)) = some number := by
  simp [natOr?]

theorem natOr?_given {number standard : Nat} (setting : Setting)
    (standardBut : config.StandardBut chosen)
    (value : setting.value? config = some (.integer number))
    (usual : setting.value? {} = some (.integer standard)) :
    natOr? standard (config.given chosen setting) = some number := by
  rw [read_given (natOr? standard) setting standardBut, value, natOr?_natCast]
  rw [usual, natOr?_natCast]
  rfl

theorem boolOr?_given {truth standard : Bool} (setting : Setting)
    (standardBut : config.StandardBut chosen)
    (value : setting.value? config = some (.boolean truth))
    (usual : setting.value? {} = some (.boolean standard)) :
    boolOr? standard (config.given chosen setting) = some truth := by
  rw [read_given (boolOr? standard) setting standardBut, value]
  · rfl
  · rw [usual]
    rfl

theorem stringOrNone?_given (standardBut : config.StandardBut chosen) :
    stringOrNone? (config.given chosen .execRoot) = some config.execRoot := by
  rw [read_given stringOrNone? .execRoot standardBut rfl, Setting.value?]
  cases config.execRoot <;> rfl

end

section

variable {entries : Entries} {name key : String} {held : Option Toml}

/-- A section whose fields can be looked up is read as a table that has them, the empty one if it is
left out. -/
theorem exists_table {Settings : Type} {usual : Settings} {read : Toml → Option Settings}
    (standard : read (.table .header []) = some usual)
    (seen : entries.look? [name, key] = some held) :
    ∃ origin inner, sectionOr? usual read (entries.find? name) = read (.table origin inner) ∧
      ∀ key held, entries.look? [name, key] = some held →
        ∀ position, field? position key (.table origin inner) = held := by
  rw [Entries.look?] at seen
  split at seen
  · rename_i missing
    refine ⟨.header, [], by rw [missing, standard]; rfl, fun key held seen position => ?_⟩
    rw [Entries.look?, missing] at seen
    exact Option.some.inj seen
  · rename_i origin inner found
    refine ⟨origin, inner, by rw [found]; rfl, fun key held seen position => ?_⟩
    rw [Entries.look?, found] at seen
    exact Option.some.inj seen
  · cases seen

variable {config : Config} {chosen : Setting → Bool}

/-- The section of the HTTP client and server, left out or not. -/
theorem sectionOr?_http (standardBut : config.StandardBut chosen)
    (holds : ∀ setting : Setting, entries.look? setting.path = some (config.given chosen setting)) :
    sectionOr? {} httpOf? (entries.find? "http") = some config.http := by
  have standard : httpOf? (.table .header []) = some {} := rfl
  obtain ⟨origin, inner, same, fields⟩ := exists_table standard (holds .clientTimeout)
  rw [same, httpOf?, fields _ _ (holds .clientTimeout), fields _ _ (holds .maxHeaderBytes),
    fields _ _ (holds .maxBodyBytes), fields _ _ (holds .requestPoll),
    fields _ _ (holds .proxyFromEnv), fields _ _ (holds .requestTimeout)]
  dsimp only
  rw [natOr?_given .clientTimeout standardBut rfl rfl,
    natOr?_given .maxHeaderBytes standardBut rfl rfl,
    natOr?_given .maxBodyBytes standardBut rfl rfl, natOr?_given .requestPoll standardBut rfl rfl,
    boolOr?_given .proxyFromEnv standardBut rfl rfl,
    natOr?_given .requestTimeout standardBut rfl rfl]
  rfl

theorem sectionOr?_net (standardBut : config.StandardBut chosen)
    (holds : ∀ setting : Setting, entries.look? setting.path = some (config.given chosen setting)) :
    sectionOr? {} netOf? (entries.find? "net") = some config.net := by
  have standard : netOf? (.table .header []) = some {} := rfl
  obtain ⟨origin, inner, same, fields⟩ := exists_table standard (holds .socketPoll)
  rw [same, netOf?, fields _ _ (holds .socketPoll)]
  dsimp only
  rw [natOr?_given .socketPoll standardBut rfl rfl]
  rfl

/-- A table that holds the chosen settings where they belong is read as the settings. -/
theorem ofEntries?_of_holds (standardBut : config.StandardBut chosen)
    (holds : ∀ setting : Setting, entries.look? setting.path = some (config.given chosen setting)) :
    ofEntries? entries = some config := by
  have execRoot : entries.find? "exec_root" = config.given chosen .execRoot :=
    Option.some.inj (holds .execRoot)
  rw [ofEntries?, execRoot, stringOrNone?_given standardBut, sectionOr?_http standardBut holds,
    sectionOr?_net standardBut holds]
  rfl

end

/-! Numbers that were read are small enough to be written. -/

section

variable {value : Toml} {number standard : Nat} {held : Option Toml}

theorem ranged_of_field? (ranged : value.Ranged) {position : Nat} {name : String} {inner : Toml}
    (found : field? position name value = some inner) : inner.Ranged := by
  cases ranged with
  | array all => exact all inner (List.mem_of_getElem? found)
  | table all => exact Entries.Ranged.find? all found
  | tables before all =>
    have member : inner ∈ _ ++ [_] := List.mem_of_getElem? found
    rcases List.mem_append.mp member with earlier | last
    · exact before inner earlier
    · rw [List.mem_singleton.mp last]
      exact .table all
  | _ => cases found

theorem lt_of_natOr? (read : natOr? standard held = some number) (usual : standard < 2 ^ 63)
    (ranged : ∀ value, held = some value → value.Ranged) : number < 2 ^ 63 := by
  unfold natOr? at read
  split at read
  · obtain rfl := Option.some.inj read
    exact usual
  · split at read
    · rename_i positive
      obtain rfl := Option.some.inj read
      cases ranged _ rfl with
      | integer above below => exact (Int.toNat_lt positive).mpr below
    · cases read
  · cases read

/-- What holds of the standard section and of every one that is read holds of the section. -/
theorem of_sectionOr? {Settings : Type} (holds : Settings → Prop) {usual settings : Settings}
    {read : Toml → Option Settings} (given : sectionOr? usual read held = some settings)
    (standard : holds usual)
    (reads : ∀ value, held = some value → read value = some settings → holds settings) :
    holds settings := by
  unfold sectionOr? at given
  split at given
  · exact Option.some.inj given ▸ standard
  · split at given
    · exact reads _ rfl given
    · cases given

/-- The numbers of the HTTP section. -/
def httpNumbers (http : HttpSettings) : List Nat :=
  [http.clientTimeout, http.maxHeaderBytes, http.maxBodyBytes, http.acceptPoll, http.requestTimeout]

theorem lt_of_httpOf? {http : HttpSettings} (ranged : value.Ranged)
    (read : httpOf? value = some http) : ∀ number ∈ httpNumbers http, number < 2 ^ 63 := by
  simp only [httpOf?, Option.bind_eq_bind, Option.bind_eq_some_iff] at read
  obtain ⟨clientTimeout, first, maxHeaderBytes, second, maxBodyBytes, third, acceptPoll, fourth,
    proxyFromEnv, -, requestTimeout, last, same⟩ := read
  obtain rfl := Option.some.inj same
  simp only [httpNumbers, List.forall_mem_cons]
  exact ⟨lt_of_natOr? first (by decide) fun _ => ranged_of_field? ranged,
    lt_of_natOr? second (by decide) fun _ => ranged_of_field? ranged,
    lt_of_natOr? third (by decide) fun _ => ranged_of_field? ranged,
    lt_of_natOr? fourth (by decide) fun _ => ranged_of_field? ranged,
    lt_of_natOr? last (by decide) fun _ => ranged_of_field? ranged, List.forall_mem_nil _⟩

theorem lt_of_netOf? {net : NetSettings} (ranged : value.Ranged) (read : netOf? value = some net) :
    net.acceptPoll < 2 ^ 63 := by
  simp only [netOf?, Option.bind_eq_bind, Option.bind_eq_some_iff] at read
  obtain ⟨acceptPoll, poll, same⟩ := read
  obtain rfl := Option.some.inj same
  exact lt_of_natOr? poll (by decide) fun _ => ranged_of_field? ranged

end

/-- All numbers can be written as integers of 64 bits. -/
structure Writable (config : Config) : Prop where
  http : ∀ number ∈ httpNumbers config.http, number < 2 ^ 63
  net : config.net.acceptPoll < 2 ^ 63

theorem writable_of_ofText? {source : String} {config : Config}
    (parsed : ofText? source = some config) : config.Writable := by
  obtain ⟨entries, read, parsed⟩ := Option.bind_eq_some_iff.mp parsed
  have ranged := Toml.ranged_of_ofText? read
  simp only [ofEntries?, Option.bind_eq_bind, Option.bind_eq_some_iff] at parsed
  obtain ⟨root, -, http, readHttp, net, readNet, same⟩ := parsed
  obtain rfl := Option.some.inj same
  exact
    { http := of_sectionOr? (∀ number ∈ httpNumbers ·, number < 2 ^ 63) readHttp (by decide)
        fun _ found => lt_of_httpOf? (ranged.find? found)
      net := of_sectionOr? (·.acceptPoll < 2 ^ 63) readNet (by decide)
        fun _ found => lt_of_netOf? (ranged.find? found) }

/-! The written form. -/

def httpSection (http : HttpSettings) : Toml.Section where
  name := "http"
  lines :=
    [Line.natural "client_timeout_ms" http.clientTimeout,
      Line.natural "max_header_bytes" http.maxHeaderBytes,
      Line.natural "max_body_bytes" http.maxBodyBytes,
      Line.natural "accept_poll_ms" http.acceptPoll,
      Line.truth "proxy_from_env" http.proxyFromEnv,
      Line.natural "request_read_timeout_ms" http.requestTimeout]

def netSection (net : NetSettings) : Toml.Section where
  name := "net"
  lines := [Line.natural "accept_poll_ms" net.acceptPoll]

/-- The document that says all settings. -/
def plain (config : Config) : Plain where
  lines := (config.execRoot.map (Line.quoted "exec_root")).toList
  sections := [httpSection config.http, netSection config.net]

theorem text_httpSection (http : HttpSettings) : (httpSection http).text = httpText http := by
  refine String.ext ?_
  simp [httpSection, Toml.Section.text, Line.text, Line.natural, Line.truth, httpText, line,
    boolText]

theorem text_netSection (net : NetSettings) : (netSection net).text = netText net := by
  refine String.ext ?_
  simp [netSection, Toml.Section.text, Line.text, Line.natural, netText, line]

theorem text_plain (config : Config) : config.plain.text = config.text := by
  have blocks : config.plain.blocks =
      (config.execRoot.map fun root => (Line.quoted "exec_root" root).text).toList ++
        [httpText config.http, netText config.net] := by
    rw [← text_httpSection, ← text_netSection, Plain.blocks, plain]
    cases config.execRoot <;> simp
  rw [Plain.text, blocks, text]
  cases config.execRoot with
  | none => simp [String.intercalate_cons_cons]
  | some root => simp [String.intercalate_cons_cons, Line.quoted, Line.text, line, String.append_assoc]

theorem wellFormed_httpSection {http : HttpSettings}
    (small : ∀ number ∈ httpNumbers http, number < 2 ^ 63) : (httpSection http).WellFormed where
  bare := show Toml.IsBare "http" by decide
  lines := by
    simp only [httpNumbers, List.forall_mem_cons] at small
    obtain ⟨clientTimeout, maxHeaderBytes, maxBodyBytes, acceptPoll, requestTimeout, -⟩ := small
    simp only [httpSection, List.forall_mem_cons]
    exact ⟨Line.wellFormed_natural (by decide) clientTimeout,
      Line.wellFormed_natural (by decide) maxHeaderBytes,
      Line.wellFormed_natural (by decide) maxBodyBytes,
      Line.wellFormed_natural (by decide) acceptPoll, Line.wellFormed_truth (by decide) _,
      Line.wellFormed_natural (by decide) requestTimeout, List.forall_mem_nil _⟩
  distinct := by simp [httpSection, Line.natural, Line.truth]

theorem wellFormed_netSection {net : NetSettings} (small : net.acceptPoll < 2 ^ 63) :
    (netSection net).WellFormed where
  bare := show Toml.IsBare "net" by decide
  lines := by
    rw [netSection, List.forall_mem_singleton]
    exact Line.wellFormed_natural (by decide) small
  distinct := List.pairwise_singleton _ _

theorem wellFormed_plain {config : Config} (writable : config.Writable) :
    config.plain.WellFormed where
  lines := by
    intro line member
    obtain ⟨root, -, rfl⟩ := Option.map_eq_some_iff.mp (Option.mem_toList.mp member)
    exact Line.wellFormed_quoted (by decide) root
  sections := by
    simp only [plain, List.forall_mem_cons]
    exact ⟨wellFormed_httpSection writable.http, wellFormed_netSection writable.net,
      List.forall_mem_nil _⟩
  distinct := by
    rw [plain]
    cases config.execRoot <;> simp [httpSection, netSection, Line.quoted]

theorem givenBy_plain (config : Config) :
    config.GivenBy (fun _ => true) config.plain.statements := by
  intro setting
  refine Toml.gives_of_given? ?_
  obtain ⟨root, http, net⟩ := config
  cases root <;> cases setting <;> rfl

/-! Documents. -/

/-- A document whose statements give the chosen settings is read as the settings. -/
theorem ofText?_of_givenBy {config : Config} {chosen : Setting → Bool} {text : String}
    {statements : List Statement} (standardBut : config.StandardBut chosen)
    (read : Toml.readStatements (Toml.skipMark text.toList) = some statements)
    (wellFormed : (Toml.ofStatements? statements).isSome = true)
    (givenBy : config.GivenBy chosen statements) : ofText? text = some config := by
  obtain ⟨entries, built⟩ := Option.isSome_iff_exists.mp wellFormed
  have holds (setting : Setting) :
      entries.look? setting.path = some (config.given chosen setting) := by
    refine Toml.look?_ofStatements? (givenBy setting) ?_ built
    cases setting <;> exact List.cons_ne_nil _ _
  rw [ofText?, Toml.ofText?, read, Option.bind_some, built, Option.bind_some]
  exact ofEntries?_of_holds standardBut holds

/-- So is a plain document that does. -/
theorem ofText?_of_plain {config : Config} {chosen : Setting → Bool} {document : Plain}
    (standardBut : config.StandardBut chosen) (wellFormed : document.WellFormed)
    (givenBy : config.GivenBy chosen document.statements) : ofText? document.text = some config := by
  have spells := Toml.spellsLines_plain wellFormed
  refine ofText?_of_givenBy standardBut (by rw [spells.skipMark, spells.read]) ?_ givenBy
  rw [Toml.ofStatements?_plain wellFormed]
  rfl

/-- Settings are read back off their written form. -/
theorem ofText?_text {config : Config} (writable : config.Writable) :
    ofText? config.text = some config := by
  have all : config.StandardBut fun _ => true := fun _ out => by cases out
  rw [← text_plain]
  exact ofText?_of_plain all (wellFormed_plain writable) (givenBy_plain config)

/-- Settings that were read are read again off every well-formed document that gives those of them that
are not standard, wherever it does so and whatever else it says. Plain documents are well-formed, and
the written form of the settings is one of them. -/
theorem ofText?_documents {source : String} {config : Config} (parsed : ofText? source = some config) :
    (∀ (chosen : Setting → Bool) (text : String) (statements : List Statement),
      config.StandardBut chosen →
      Toml.readStatements (Toml.skipMark text.toList) = some statements →
      (Toml.ofStatements? statements).isSome = true →
      config.GivenBy chosen statements → ofText? text = some config) ∧
    (∀ (chosen : Setting → Bool) (document : Plain), config.StandardBut chosen →
      document.WellFormed → config.GivenBy chosen document.statements →
      ofText? document.text = some config) ∧
    ofText? config.text = some config :=
  ⟨fun _ _ _ => ofText?_of_givenBy, fun _ _ => ofText?_of_plain,
    ofText?_text (writable_of_ofText? parsed)⟩

/-- The sections the other way round, a key that means nothing in one of them, a setting that is
standard anyway, and an exec root with a backslash and a mark. -/
theorem ofText?_documents_reversed :
    let config : Config :=
      { execRoot := some "C:\\it's", http := { proxyFromEnv := false }, net := { acceptPoll := 25 } }
    let text := "exec_root = '''C:\\it's'''\n\n[net]\naccept_poll_ms = 25\n\n" ++
      "[http]\nretries = 3\nproxy_from_env = false\nmax_body_bytes = 16777216\n"
    ofText? config.text = some config ∧ ofText? text = some config := by
  intro config text
  have parsed : ofText? config.text = some config := ofText?_text ⟨by decide, by decide⟩
  let chosen (setting : Setting) : Bool :=
    setting ∈ [.execRoot, .maxBodyBytes, .proxyFromEnv, .socketPoll]
  let document : Plain :=
    { lines := [Line.quoted "exec_root" "C:\\it's"]
      sections := [⟨"net", [Line.natural "accept_poll_ms" 25]⟩,
        ⟨"http", [Line.natural "retries" 3, Line.truth "proxy_from_env" false,
          Line.natural "max_body_bytes" 16777216]⟩] }
  have wellFormed : document.WellFormed := by
    refine ⟨?_, ?_, by decide⟩
    · rw [List.forall_mem_singleton]
      exact Line.wellFormed_quoted (by decide) _
    · simp only [document, List.forall_mem_cons]
      refine ⟨⟨by decide, ?_, by decide⟩, ⟨by decide, ?_, by decide⟩, List.forall_mem_nil _⟩
      · rw [List.forall_mem_singleton]
        exact Line.wellFormed_natural (by decide) (by decide)
      · simp only [List.forall_mem_cons]
        exact ⟨Line.wellFormed_natural (by decide) (by decide), Line.wellFormed_truth (by decide) _,
          Line.wellFormed_natural (by decide) (by decide), List.forall_mem_nil _⟩
  have standardBut : config.StandardBut chosen := by
    intro setting out
    cases setting <;> first | rfl | cases out
  have givenBy : config.GivenBy chosen document.statements := by
    intro setting
    refine Toml.gives_of_given? ?_
    cases setting <;> rfl
  have written : document.text = text := by decide +kernel
  rw [← written]
  exact ⟨parsed, (ofText?_documents parsed).2.1 chosen document standardBut wellFormed givenBy⟩

end ScriptHost.Config
