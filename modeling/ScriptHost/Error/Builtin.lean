import ScriptHost.Error.Host
import ScriptHost.Text.Utf8
import ScriptHost.TypeDesc

/-!
Failures of builtin calls, and the three kinds that callers tell apart.
-/
namespace ScriptHost

/-- What a builtin may find wrong with arguments of the declared types. -/
inductive CallFault where
  | missingArgument (index : Nat)
  | wrongArgument (index : Nat) (expected got : String)
  | headerNotString (key typeName : String)
  | bodyNotBytes (typeName : String)
  | negativeSleep (duration : Int)
  | notUtf8 (error : Text.Utf8Error)
  | startOutOfRange (start : Int) (length : Nat)
  | endOutOfRange (last : Int) (length : Nat)
  | startAfterEnd (start last : Int)
  | emptySeparator
  /-- A fault known only by its words. -/
  | reported (text : String)
  deriving DecidableEq, Repr

def CallFault.message : CallFault → String
  | .missingArgument index => s!"missing argument {index}"
  | .wrongArgument index expected got => s!"argument {index} must be {expected}, got {got}"
  | .headerNotString key typeName => s!"value for key '{key}' must be string, got {typeName}"
  | .bodyNotBytes typeName => s!"body must be bytes, got {typeName}"
  | .negativeSleep duration => s!"sleep duration must be >= 0, got {duration}"
  | .notUtf8 error => s!"bytes are not valid UTF-8: {error.message}"
  | .startOutOfRange start length => s!"start {start} out of range 0..={length}"
  | .endOutOfRange last length => s!"end {last} out of range 0..={length}"
  | .startAfterEnd start last => s!"slice start {start} is after end {last}"
  | .emptySeparator => "split separator must not be empty"
  | .reported text => text

/-- Why a builtin call failed. -/
inductive BuiltinError where
  | arity (name : String) (expected got : Nat)
  | typeMismatch (name : String) (index : Nat) (param : String) (expected : TypeDesc)
      (got : String)
  | invalidArgument (fault : CallFault)
  | unknownBuiltin (name : String)
  | host (error : HostError)
  deriving DecidableEq, Repr

/-- What a caller did wrong, what is not there, or what failed outside. -/
inductive ErrorKind where
  | contract
  | resource
  | io
  deriving DecidableEq, Repr

namespace BuiltinError

def message : BuiltinError → String
  | .arity name expected got => s!"{name} expects {expected} argument(s), got {got}"
  | .typeMismatch name index param expected got =>
    s!"{name}: argument {index} ('{param}') expects {expected.text}, got {got}"
  | .invalidArgument fault => s!"invalid argument: {fault.message}"
  | .unknownBuiltin name => s!"unknown builtin {name}"
  | .host error => error.message

def kind : BuiltinError → ErrorKind
  | .arity _ _ _ | .typeMismatch _ _ _ _ _ | .invalidArgument _ | .unknownBuiltin _ => .contract
  | .host (.invalidArgument _) => .contract
  | .host error => if error.isResourceError then .resource else .io

end BuiltinError

end ScriptHost
