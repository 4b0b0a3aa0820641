import ScriptHost.Proofs.Text.Encoding

/-! The order of texts is the order of their bytes. -/
namespace ScriptHost.Text

/-- The bits of a long character as they are spread over four bytes. -/
private theorem base64 (code : Nat) (small : code < 0x110000) :
    code = ((code / 262144 % 8 * 64 + code / 4096 % 64) * 64 + code / 64 % 64) * 64 + code % 64 ∧
      code / 262144 % 8 < 8 ∧ code / 4096 % 64 < 64 ∧ code / 64 % 64 < 64 ∧ code % 64 < 64 := by
  omega

/-- The first byte in which two characters differ decides. -/
theorem encodeChar_append_lt {first second : Char} (less : first.toNat < second.toNat)
    (rest rest' : Bytes) :
    String.utf8EncodeChar first ++ rest < String.utf8EncodeChar second ++ rest' := by
  have range := toNat_range first
  have range' := toNat_range second
  rw [utf8EncodeChar_of_toNat rfl, utf8EncodeChar_of_toNat rfl]
  generalize first.toNat = code at *
  generalize second.toNat = code' at *
  -- Of two characters of different lengths the first bytes differ already.
  repeat' split
  all_goals simp only [List.cons_append, List.nil_append, List.cons_lt_cons_iff,
    UInt8.lt_iff_toNat_lt, ← UInt8.toNat_inj, UInt8.toNat_ofNat', Nat.reducePow]
  case isFalse.isFalse.isFalse.isFalse.isFalse.isFalse =>
    have digits := base64 code (by omega)
    have digits' := base64 code' (by omega)
    generalize code / 262144 % 8 = a, code / 4096 % 64 = b, code / 64 % 64 = c, code % 64 = d at *
    generalize code' / 262144 % 8 = a', code' / 4096 % 64 = b', code' / 64 % 64 = c',
      code' % 64 = d' at *
    simp (disch := omega) only [Nat.mod_eq_of_lt]
    omega
  all_goals omega

theorem encode_lt {first second : List Char} (less : first < second) :
    encode first < encode second := by
  induction first generalizing second with
  | nil =>
    cases second with
    | nil => exact absurd less (List.lt_irrefl [])
    | cons char rest =>
      rw [encode_cons, encode, List.flatMap_nil]
      cases bytes : String.utf8EncodeChar char with
      | nil => exact absurd bytes (String.utf8EncodeChar_ne_nil)
      | cons byte more => exact List.nil_lt_cons ..
  | cons char rest ih =>
    cases second with
    | nil => exact absurd less (List.not_lt_nil _)
    | cons other rest' =>
      rw [encode_cons, encode_cons]
      rcases List.cons_lt_cons_iff.mp less with before | ⟨rfl, behind⟩
      · exact encodeChar_append_lt before _ _
      · exact List.append_left_lt (ih behind)

/-- Texts in ascending order are in ascending order of their bytes. -/
theorem toBytes_lt_of_compare {first second : String} (less : compare first second = .lt) :
    toBytes first < toBytes second :=
  have before : first < second := compareOfLessAndEq_eq_lt.mp less
  encode_lt before

end ScriptHost.Text
