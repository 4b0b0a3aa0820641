import ScriptHost.Config.Text
import ScriptHost.Disk.Path
import ScriptHost.Error.Io

/-!
Where settings come from: a given file, or else the file in the current directory or the nearest
one around it, or else the user's own. Whichever comes first decides alone, even if it is broken.
-/
namespace ScriptHost

/-- What files there are to be read. -/
structure FileView where
  /-- Whether a path leads anywhere. -/
  present : String → Bool
  /-- The text of a file. -/
  read : String → Except IoCause String

/-- The directory for the user's own settings: the one that the environment names, or else one in
the home directory, which is that of the account unless the environment names another. -/
def settingsDirectory? (environment : String → Option String)
    (accountHome : Option String := none) : Option String :=
  let named := (environment "XDG_CONFIG_HOME").filter (·.startsWith "/")
  let home := (environment "HOME").filter (!·.isEmpty) <|> accountHome
  named <|> home.map (Disk.joinPath · ".config")

/-- What a search for settings depends on. -/
structure Surroundings where
  files : FileView
  /-- The current directory as an absolute path. -/
  directory : String
  /-- The variables of the environment. -/
  environment : String → Option String
  /-- The directory for the user's own settings, if there is one. -/
  configDirectory : Option String := settingsDirectory? environment

/-- Why given settings cannot be used. -/
inductive ConfigError where
  | unreadable (path : String) (cause : IoCause)
  | invalid (path : String)
  deriving DecidableEq, Repr

def ConfigError.message : ConfigError → String
  | .unreadable path cause => s!"cannot read '{path}': {cause.message}"
  | .invalid path => s!"invalid toml in '{path}': no settings can be read from it"

namespace Config

/-- The name of files with settings. -/
def fileName : String := "brisk.toml"

/-- The variable that settles the exec root, whatever the files say. -/
def execRootVariable : String := "BRISK_EXEC_ROOT"

/-- A directory, given by its names from the inside out, and all those around it. -/
def outward : List String → List (List String)
  | [] => [[]]
  | name :: around => (name :: around) :: outward around

/-- The path of the file with settings in a directory given from the inside out. -/
def pathIn (names : List String) : String := "/" ++ "/".intercalate (fileName :: names).reverse

/-- The files with settings in a directory and around it, the nearest first. -/
def nearby (directory : String) : List String :=
  (outward (Disk.Path.ofText directory).names.reverse).map pathIn

/-- The file with the user's own settings. -/
def globalPath? (surroundings : Surroundings) : Option String :=
  surroundings.configDirectory.map fun directory =>
    Disk.joinPath (Disk.joinPath directory "brisk") fileName

/-- The settings of a file, if it can be read and holds any. -/
def readFile? (files : FileView) (path : String) : Option Config :=
  match files.read path with
  | .ok text => ofText? text
  | .error _ => none

/-- The settings with the exec root that the environment settles. -/
def heedVariable (surroundings : Surroundings) (config : Config) : Config :=
  match (surroundings.environment execRootVariable).filter (!·.isEmpty) with
  | some root => { config with execRoot := root }
  | none => config

/-- The settings that files give: those of the nearest file alone, or the user's own if there is
no file around; standard ones where that file is of no use. -/
def find (surroundings : Surroundings) : Config :=
  match (nearby surroundings.directory).find? surroundings.files.present with
  | some path => (readFile? surroundings.files path).getD {}
  | none => ((globalPath? surroundings).bind (readFile? surroundings.files)).getD {}

/-- Search for settings. -/
def load (surroundings : Surroundings) : Config :=
  heedVariable surroundings (find surroundings)

/-- Take the settings of a given file. -/
def loadFrom (surroundings : Surroundings) (path : String) : Except ConfigError Config :=
  match surroundings.files.read path with
  | .error cause => .error (.unreadable path cause)
  | .ok text =>
    match ofText? text with
    | none => .error (.invalid path)
    | some config => .ok (heedVariable surroundings config)

end Config

end ScriptHost
