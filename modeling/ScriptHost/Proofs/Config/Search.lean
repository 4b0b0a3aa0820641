import Mathlib.Data.List.Infix
import ScriptHost.Config.Search
import ScriptHost.Proofs.Text.Cutting

/-! Which file settles the settings. The nearest one in the current directory or around it decides
alone, of whatever use it is; the user's own file is looked at only if there is none. -/
namespace ScriptHost

/-- The names that lead from the root to the current directory. -/
def Surroundings.names (surroundings : Surroundings) : List String :=
  (Disk.Path.ofText surroundings.directory).names

namespace Config

/-- The file with settings in the directory that names lead to. -/
def fileIn (names : List String) : String := "/" ++ "/".intercalate (names ++ [fileName])

/-- The current directory, or the directory around it, that holds the nearest file with settings. -/
structure Nearest (surroundings : Surroundings) (outer : List String) : Prop where
  around : outer <+: surroundings.names
  present : surroundings.files.present (fileIn outer) = true
  first : ∀ inner, inner <+: surroundings.names → outer.length < inner.length →
    surroundings.files.present (fileIn inner) = false

/-- No file with settings is in the current directory or around it. -/
def Alone (surroundings : Surroundings) : Prop :=
  ∀ outer, outer <+: surroundings.names → surroundings.files.present (fileIn outer) = false

/-- What settings a file gives: standard ones if it cannot be read or holds none. -/
inductive Yields (files : FileView) (path : String) : Config → Prop where
  | parsed (read : files.read path = .ok content) (valid : ofText? content = some config) :
      Yields files path config
  | unreadable (failed : files.read path = .error cause) : Yields files path {}
  | invalid (read : files.read path = .ok content) (broken : ofText? content = none) :
      Yields files path {}

/-- What settings all files together give. -/
inductive Settles (surroundings : Surroundings) : Config → Prop where
  | nearest (nearest : Nearest surroundings outer)
      (yields : Yields surroundings.files (fileIn outer) config) : Settles surroundings config
  | own (alone : Alone surroundings) (home : globalPath? surroundings = some path)
      (yields : Yields surroundings.files path config) : Settles surroundings config
  | standard (alone : Alone surroundings) (homeless : globalPath? surroundings = none) :
      Settles surroundings {}

variable {surroundings : Surroundings} {files : FileView} {names outer : List String}
  {path : String} {config : Config}

end Config

end ScriptHost
