import ScriptHost.World

/-!
Arguments of builtins by position and tag.
-/
namespace ScriptHost.Args

/-- The argument at a position. -/
def any (args : List Value) (index : Nat) : Except BuiltinError Value :=
  match args[index]? with
  | some value => .ok value
  | none => .error (.invalidArgument (.missingArgument index))

def mismatch (index : Nat) (expected : Kind) (got : Value) : BuiltinError :=
  .invalidArgument (.wrongArgument index expected.text got.typeName)

def int (args : List Value) (index : Nat) : Except BuiltinError Int :=
  match any args index with
  | .ok (.int number) => .ok number.toInt
  | .ok other => .error (mismatch index .int other)
  | .error error => .error error

def string (args : List Value) (index : Nat) : Except BuiltinError String :=
  match any args index with
  | .ok (.string text) => .ok text
  | .ok other => .error (mismatch index .string other)
  | .error error => .error error

def bytes (args : List Value) (index : Nat) : Except BuiltinError Bytes :=
  match any args index with
  | .ok (.bytes data) => .ok data
  | .ok other => .error (mismatch index .bytes other)
  | .error error => .error error

/-- A handle out of the bytes that carry it. -/
def handle (args : List Value) (index : Nat) : Except BuiltinError Handle :=
  match bytes args index with
  | .error error => .error error
  | .ok data =>
    match Handle.ofBytes data with
    | .ok handle => .ok handle
    | .error fault => .error (.host (.invalidHandle fault))

def list (args : List Value) (index : Nat) : Except BuiltinError (List Value) :=
  match any args index with
  | .ok (.list items) => .ok items
  | .ok other => .error (mismatch index .list other)
  | .error error => .error error

def dict (args : List Value) (index : Nat) : Except BuiltinError DictRef :=
  match any args index with
  | .ok (.dict ref) => .ok ref
  | .ok other => .error (mismatch index .dict other)
  | .error error => .error error

def closure (args : List Value) (index : Nat) : Except BuiltinError ClosureRef :=
  match any args index with
  | .ok (.closure ref) => .ok ref
  | .ok other => .error (mismatch index .function other)
  | .error error => .error error

def error (args : List Value) (index : Nat) : Except BuiltinError String :=
  match any args index with
  | .ok (.error message) => .ok message
  | .ok other => .error (mismatch index .error other)
  | .error error => .error error

def optional (args : List Value) (index : Nat) : Except BuiltinError (Option Value) :=
  match any args index with
  | .ok .absent => .ok none
  | .ok (.present content) => .ok (some content)
  | .ok other => .error (mismatch index .optional other)
  | .error error => .error error

/-- The strings of dict entries; the first other value in key order is a fault. -/
def stringEntries : List (String × Value) → Except BuiltinError (List (String × String))
  | [] => .ok []
  | (key, .string text) :: rest => (stringEntries rest).map ((key, text) :: ·)
  | (key, other) :: _ => .error (.invalidArgument (.headerNotString key other.typeName))

/-- The contents of a dict that must hold strings only. -/
def headers (heap : Heap) (args : List Value) (index : Nat) : Except BuiltinError Http.Headers :=
  match dict args index with
  | .error error => .error error
  | .ok ref => (stringEntries (heap.contents ref).entries).map SortedMap.ofList

/-- An optional that must hold bytes if anything. -/
def body (args : List Value) (index : Nat) : Except BuiltinError (Option Bytes) :=
  match optional args index with
  | .error error => .error error
  | .ok none => .ok none
  | .ok (some (.bytes data)) => .ok (some data)
  | .ok (some other) => .error (.invalidArgument (.bodyNotBytes other.typeName))

end ScriptHost.Args
