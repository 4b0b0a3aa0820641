import ScriptHost.CommandLine

/-!
The program: it gathers what the search for settings may look at and prints the answer.
-/
open ScriptHost

/-- The cause of a failure to read a file. -/
def causeOf : IO.Error → IoCause
  | .noFileOrDirectory _ _ _ | .resourceVanished _ _ => .os .noEntry
  | .inappropriateType _ _ _ => .os .isADirectory
  | .alreadyExists _ _ _ => .os .alreadyExists
  | .userError message => .reported message
  | error => .reported (toString error)

/-- The text of a file. -/
def readText (path : String) : IO (Except IoCause String) := do
  try
    let bytes ← IO.FS.readBinFile path
    match String.fromUTF8? bytes with
    | some text => return .ok text
    | none => return .error .notUtf8
  catch error => return .error (causeOf error)

/-- Whether a path leads anywhere. -/
def leadsAnywhere (path : String) : IO Bool := do
  try
    (← IO.FS.realPath path).pathExists
  catch _ => return false

/-- The files of some paths. -/
def viewOf (paths : List String) : IO FileView := do
  let found ← paths.mapM fun path : String => do
    return (path, ← leadsAnywhere path, ← readText path)
  let entryOf := fun path => found.find? (·.1 == path)
  return {
    present := fun path => (entryOf path).any (·.2.1)
    read := fun path => ((entryOf path).map (·.2.2)).getD (.error (.os .noEntry)) }

/-- The home directory that the system keeps for the account the program runs under. -/
def accountHome : IO (Option String) := do
  try
    let status ← IO.FS.lines "/proc/self/status"
    let accounts ← IO.FS.lines "/etc/passwd"
    let fields := fun line : String => Text.split ":" line
    let ids := (status.toList.find? (·.startsWith "Uid:")).map (Text.split "\t")
    let account := accounts.toList.find? fun line => (fields line)[2]? == ids.bind (·[1]?)
    return (account.bind fun line => (fields line)[5]?).filter (!·.isEmpty)
  catch _ => return none

def main (args : List String) : IO UInt32 := do
  let directory := (← IO.currentDir).toString
  let names := ["HOME", "XDG_CONFIG_HOME", Config.execRootVariable]
  let values ← names.mapM fun name => return (name, ← IO.getEnv name)
  let environment := fun name => (values.find? (·.1 == name)).bind (·.2)
  let configDirectory := settingsDirectory? environment (← accountHome)
  let unseen : Surroundings :=
    { files := ⟨fun _ => false, fun _ => .error (.os .noEntry)⟩
      directory, environment, configDirectory }
  let named := match CommandLine.Invocation.ofArgs args with
    | .run (some path) _ => [path]
    | _ => []
  let files ← viewOf (named ++ Config.nearby directory ++ (Config.globalPath? unseen).toList)
  let report := CommandLine.run standardRegistry { unseen with files } args
  IO.print report.output
  IO.eprint report.errors
  return report.code.toUInt32
