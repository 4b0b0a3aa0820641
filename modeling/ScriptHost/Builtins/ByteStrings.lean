import ScriptHost.Args
import ScriptHost.Registry

/-!
Methods of byte sequences.
-/
namespace ScriptHost.Builtins.ByteStrings

/-- A position in a sequence, its end included. -/
def position? (index : Int) (length : Nat) : Option Nat :=
  if 0 ≤ index ∧ index ≤ length then some index.toNat else none

/-- The bytes from one position up to another. -/
def sliceOf (data : Bytes) (start last : Int) : Except CallFault Bytes :=
  match position? start data.length with
  | none => .error (.startOutOfRange start data.length)
  | some first =>
    match position? last data.length with
    | none => .error (.endOutOfRange last data.length)
    | some behind =>
      if behind < first then .error (.startAfterEnd first behind)
      else .ok ((data.take behind).drop first)

def length : Builtin where
  signature := Signature.ofMethod ⟨1100⟩ .bytes "len" |>.returns .int
  run _ args := return .finished (.ofNat (← Action.ofExcept (Args.bytes args 0)).length)

def toText : Builtin where
  signature := Signature.ofMethod ⟨1101⟩ .bytes "toString" |>.returns .string
  run _ args := do
    let data ← Action.ofExcept (Args.bytes args 0)
    match Text.ofBytes data with
    | .ok text => return .finished (.string text)
    | .error error => throw (.invalidArgument (.notUtf8 error))

def slice : Builtin where
  signature := Signature.ofMethod ⟨1102⟩ .bytes "slice"
    |>.param "start" .int
    |>.param "end" .int
    |>.returns .bytes
  run _ args := do
    let data ← Action.ofExcept (Args.bytes args 0)
    let start ← Action.ofExcept (Args.int args 1)
    let last ← Action.ofExcept (Args.int args 2)
    match sliceOf data start last with
    | .ok part => return .finished (.bytes part)
    | .error fault => throw (.invalidArgument fault)

def concat : Builtin where
  signature := Signature.ofMethod ⟨1103⟩ .bytes "concat"
    |>.param "other" .bytes
    |>.returns .bytes
  run _ args := do
    let data ← Action.ofExcept (Args.bytes args 0)
    let other ← Action.ofExcept (Args.bytes args 1)
    return .finished (.bytes (data ++ other))

/-- The methods of byte sequences in the order of their numbers. -/
def all : List Builtin := [length, toText, slice, concat]

end ScriptHost.Builtins.ByteStrings
