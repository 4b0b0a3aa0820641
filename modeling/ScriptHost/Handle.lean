/-!
Handles name live host resources. A script carries a handle as eight bytes, least significant
first; zero is never a handle. Main statement: decoding inverts encoding.
-/
namespace ScriptHost

/-- Text as bytes travel: a plain list of octets. -/
abbrev Bytes := List UInt8

/-- The number that a byte sequence spells, least significant byte first. -/
def littleEndian : Bytes → Nat
  | [] => 0
  | byte :: rest => byte.toNat + 256 * littleEndian rest

/-- The given number of bytes of a number, least significant byte first. -/
def littleEndianBytes : (width : Nat) → Nat → Bytes
  | 0, _ => []
  | width + 1, number => UInt8.ofNat (number % 256) :: littleEndianBytes width (number / 256)

/-- A resource identifier: positive and below 2 to the 64. -/
structure Handle where
  id : Nat
  id_pos : 0 < id
  id_lt : id < UInt64.size
  deriving DecidableEq, Repr

/-- Why a byte sequence is no handle. -/
inductive HandleError where
  | empty
  | badLength (length : Nat)
  | zero
  deriving DecidableEq, Repr

namespace HandleError

def message : HandleError → String
  | .empty => "empty handle"
  | .badLength length => s!"malformed handle: expected 8 bytes, got {length}"
  | .zero => "zero handle"

end HandleError

namespace Handle

/-- The handle of an identifier, if it may be issued at all. -/
def ofId? (id : Nat) : Option Handle :=
  if h : 0 < id ∧ id < UInt64.size then some ⟨id, h.1, h.2⟩ else none

/-- The handle issued after the given number of earlier ones. Counting starts over after all
2 to the 64 less one of them. -/
def afterIssuing (earlier : Nat) : Handle :=
  ⟨earlier % (UInt64.size - 1) + 1, Nat.succ_pos _, by
    have below : earlier % (UInt64.size - 1) < UInt64.size - 1 := Nat.mod_lt _ (by decide)
    omega⟩

/-- The eight bytes a script carries. -/
def toBytes (handle : Handle) : Bytes := littleEndianBytes 8 handle.id

/-- Read a handle back from bytes of any length. -/
def ofBytes (bytes : Bytes) : Except HandleError Handle :=
  if bytes.isEmpty then .error .empty
  else if bytes.length ≠ 8 then .error (.badLength bytes.length)
  else match ofId? (littleEndian bytes) with
    | some handle => .ok handle
    | none => .error .zero

/-- A handle in messages. -/
def text (handle : Handle) : String := s!"#{handle.id}"

theorem ofId?_id (handle : Handle) : ofId? handle.id = some handle := by
  rw [ofId?, dif_pos ⟨handle.id_pos, handle.id_lt⟩]

end Handle

theorem length_littleEndianBytes (width number : Nat) :
    (littleEndianBytes width number).length = width := by
  induction width generalizing number with
  | zero => rfl
  | succ width ih => simp [littleEndianBytes, ih]

theorem littleEndian_littleEndianBytes (width number : Nat) :
    littleEndian (littleEndianBytes width number) = number % Nat.pow 256 width := by
  induction width generalizing number with
  | zero => simp [littleEndianBytes, littleEndian, Nat.mod_one]
  | succ width ih =>
    have low : (UInt8.ofNat (number % 256)).toNat = number % 256 := by simp
    have power : Nat.pow 256 (width + 1) = 256 * Nat.pow 256 width := Nat.mul_comm ..
    rw [littleEndianBytes, littleEndian, ih, low, power, Nat.mod_mul]

/-- Every handle is read back from its own bytes. -/
theorem Handle.ofBytes_toBytes (handle : Handle) : Handle.ofBytes handle.toBytes = .ok handle := by
  have length : handle.toBytes.length = 8 := length_littleEndianBytes 8 handle.id
  have filled : handle.toBytes.isEmpty = false := by
    cases bytes : handle.toBytes <;> simp_all
  have number : littleEndian handle.toBytes = handle.id := by
    rw [Handle.toBytes, littleEndian_littleEndianBytes]
    exact Nat.mod_eq_of_lt handle.id_lt
  simp [Handle.ofBytes, length, filled, number, Handle.ofId?_id]

end ScriptHost
