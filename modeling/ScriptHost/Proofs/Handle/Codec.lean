import Mathlib.Algebra.BigOperators.Fin
import Mathlib.Data.Set.Function
import Mathlib.Tactic.Ring
import ScriptHost.Handle

/-! Handles and the bytes that stand for them. Eight bytes that are not all zero stand for exactly
one handle; anything else is refused, and its length and its bytes tell why. -/
namespace ScriptHost

theorem littleEndian_lt (bytes : Bytes) : littleEndian bytes < 256 ^ bytes.length := by
  induction bytes with
  | nil => exact Nat.one_pos
  | cons byte rest ih =>
    have small := byte.toNat_lt
    rw [littleEndian, List.length_cons, pow_succ]
    omega

/-- The number that bytes spell is spelled by these bytes alone, as far as their length goes. -/
theorem littleEndianBytes_littleEndian (bytes : Bytes) :
    littleEndianBytes bytes.length (littleEndian bytes) = bytes := by
  induction bytes with
  | nil => rfl
  | cons byte rest ih =>
    have small : byte.toNat < 256 := byte.toNat_lt
    have low : (byte.toNat + 256 * littleEndian rest) % 256 = byte.toNat := by omega
    have high : (byte.toNat + 256 * littleEndian rest) / 256 = littleEndian rest := by omega
    rw [List.length_cons, littleEndian, littleEndianBytes, low, high, ih, UInt8.ofNat_toNat]

theorem littleEndian_eq_sum (bytes : Bytes) :
    littleEndian bytes = ∑ place : Fin bytes.length, bytes[place].toNat * 256 ^ place.val := by
  induction bytes with
  | nil => rfl
  | cons byte rest ih =>
    change _ = ∑ place : Fin (rest.length + 1), (byte :: rest)[place].toNat * 256 ^ place.val
    have shifted (place : Fin rest.length) :
        256 * (rest[place].toNat * 256 ^ place.val) =
          (byte :: rest)[place.succ].toNat * 256 ^ place.succ.val := by
      simp only [Fin.getElem_fin, Fin.val_succ, List.getElem_cons_succ, pow_succ]
      ring
    have sums := Finset.sum_congr rfl fun place (_ : place ∈ Finset.univ) => shifted place
    rw [littleEndian, ih, Fin.sum_univ_succ, Finset.mul_sum, sums]
    simp

theorem littleEndian_eq_zero_iff {bytes : Bytes} :
    littleEndian bytes = 0 ↔ bytes = List.replicate bytes.length 0 := by
  induction bytes with
  | nil => exact ⟨fun _ => rfl, fun _ => rfl⟩
  | cons byte rest ih =>
    have zero : byte.toNat = 0 ↔ byte = 0 := UInt8.toNat_inj (b := 0)
    rw [littleEndian, List.length_cons, List.replicate_succ, List.cons.injEq, ← ih, ← zero]
    omega

namespace Handle

theorem ofId?_eq_some_iff {id : Nat} {handle : Handle} :
    ofId? id = some handle ↔ handle.id = id := by
  constructor
  · intro issued
    rw [ofId?] at issued
    split at issued
    · obtain rfl := Option.some.inj issued
      rfl
    · cases issued
  · rintro rfl
    exact ofId?_id handle

theorem length_toBytes (handle : Handle) : handle.toBytes.length = 8 :=
  length_littleEndianBytes 8 handle.id

theorem littleEndian_toBytes (handle : Handle) : littleEndian handle.toBytes = handle.id := by
  rw [toBytes, littleEndian_littleEndianBytes]
  exact Nat.mod_eq_of_lt handle.id_lt

theorem toBytes_eq_iff {handle : Handle} {bytes : Bytes} (eight : bytes.length = 8) :
    handle.toBytes = bytes ↔ handle.id = littleEndian bytes := by
  constructor
  · rintro rfl
    exact handle.littleEndian_toBytes.symm
  · intro spelled
    rw [toBytes, spelled, ← eight, littleEndianBytes_littleEndian]

/-- What bytes are read as. -/
inductive Decodes : Bytes → Except HandleError Handle → Prop where
  | empty : Decodes [] (.error .empty)
  | badLength (filled : bytes ≠ []) (other : bytes.length ≠ 8) :
      Decodes bytes (.error (.badLength bytes.length))
  | zero : Decodes (List.replicate 8 0) (.error .zero)
  | issued (id : handle.id = ∑ place : Fin bytes.length, bytes[place].toNat * 256 ^ place.val)
      (again : handle.toBytes = bytes) : Decodes bytes (.ok handle)

theorem decodes_ofBytes (bytes : Bytes) : Decodes bytes (ofBytes bytes) := by
  rw [ofBytes]
  split
  · rename_i missing
    rw [List.isEmpty_iff.mp missing]
    exact .empty
  · rename_i filled
    split
    · rename_i other
      exact .badLength (fun missing => filled (List.isEmpty_iff.mpr missing)) other
    · rename_i eight
      have eight : bytes.length = 8 := Decidable.not_not.mp eight
      split
      · rename_i handle found
        have id := ofId?_eq_some_iff.mp found
        exact .issued (id.trans (littleEndian_eq_sum bytes)) ((toBytes_eq_iff eight).mpr id)
      · rename_i missing
        have bounded := littleEndian_lt bytes
        rw [eight] at bounded
        have zero : littleEndian bytes = 0 := by
          by_contra positive
          rw [ofId?, dif_pos ⟨Nat.pos_of_ne_zero positive, bounded⟩] at missing
          cases missing
        rw [littleEndian_eq_zero_iff.mp zero, eight]
        exact .zero

theorem ofBytes_eq_iff {bytes : Bytes} {result : Except HandleError Handle} :
    ofBytes bytes = result ↔ Decodes bytes result := by
  constructor
  · rintro rfl
    exact decodes_ofBytes bytes
  · intro decodes
    cases decodes with
    | empty => rfl
    | badLength filled other => rw [ofBytes, if_neg (by simpa using filled), if_pos other]
    | zero => rfl
    | @issued handle _ _ again => rw [← again, ofBytes_toBytes]

theorem toBytes_injective : Function.Injective toBytes := by
  intro first second same
  have read := first.ofBytes_toBytes
  rw [same, ofBytes_toBytes] at read
  exact (Except.ok.inj read).symm

theorem toBytes_ne_zeros (handle : Handle) : handle.toBytes ≠ List.replicate 8 0 := by
  intro zeros
  have read := handle.ofBytes_toBytes
  rw [zeros] at read
  cases read

theorem exists_toBytes {bytes : Bytes} (eight : bytes.length = 8)
    (nonzero : bytes ≠ List.replicate 8 0) : ∃ handle : Handle, handle.toBytes = bytes := by
  cases read : ofBytes bytes with
  | error error =>
    cases ofBytes_eq_iff.mp read with
    | empty => cases eight
    | badLength _ other => exact absurd eight other
    | zero => exact absurd rfl nonzero
  | ok handle =>
    cases ofBytes_eq_iff.mp read with
    | issued _ again => exact ⟨handle, again⟩

/-- Every number that may be issued has a handle, which is read back from its bytes; handles and the
sequences of eight bytes that are not all zero stand for each other one to one; and bytes of any
length are read as what they stand for, or refused for the one reason that fits. -/
theorem codec_bijective :
    (∀ id, 0 < id → id < UInt64.size →
        ∃ handle, ofId? id = some handle ∧ handle.id = id ∧ ofBytes handle.toBytes = .ok handle) ∧
      Set.BijOn toBytes Set.univ {bytes | bytes.length = 8 ∧ bytes ≠ List.replicate 8 0} ∧
      ∀ bytes result, ofBytes bytes = result ↔ Decodes bytes result := by
  refine ⟨?_, ⟨?_, toBytes_injective.injOn, ?_⟩, fun _ _ => ofBytes_eq_iff⟩
  · intro id positive bounded
    let handle : Handle := ⟨id, positive, bounded⟩
    exact ⟨handle, handle.ofId?_id, rfl, handle.ofBytes_toBytes⟩
  · intro handle _
    exact ⟨handle.length_toBytes, handle.toBytes_ne_zeros⟩
  · rintro bytes ⟨eight, nonzero⟩
    obtain ⟨handle, same⟩ := exists_toBytes eight nonzero
    exact ⟨handle, Set.mem_univ handle, same⟩

example : ofBytes [2, 1, 0, 0, 0, 0, 0, 0] = .ok ⟨258, by decide, by decide⟩ := by decide

end Handle

end ScriptHost
