import ScriptHost.Proofs.Builtins.Standard
import ScriptHost.Proofs.Text.DecodingFaults

/-! Strings and bytes are converted into each other exactly. Bytes that are no text are refused for a
reason that lies in them, however they are read. -/
namespace ScriptHost

open Builtins Text

theorem callMethod_toBytes (env : Environment) (text : String) :
    standardRegistry.callMethod "toBytes" env [.string text] =
      pure (.finished (.bytes (Text.toBytes text))) := by
  have member : Strings.toBytes ∈ standardBuiltins := by simp [standardBuiltins, Strings.all]
  exact callMethod_standard member rfl rfl env

theorem callMethod_length (env : Environment) (text : String) :
    standardRegistry.callMethod "len" env [.string text] =
      pure (.finished (.ofNat text.length)) := by
  have member : Strings.length ∈ standardBuiltins := by simp [standardBuiltins, Strings.all]
  exact callMethod_standard member rfl rfl env

theorem callMethod_toString (env : Environment) (bytes : Bytes) :
    standardRegistry.callMethod "toString" env [.bytes bytes] =
      match ofBytes bytes with
      | .ok text => pure (.finished (.string text))
      | .error error => throw (.invalidArgument (.notUtf8 error)) := by
  have member : ByteStrings.toText ∈ standardBuiltins := by simp [standardBuiltins, ByteStrings.all]
  exact callMethod_standard member rfl rfl env

/-- What reading bytes as a string comes to: well-formed bytes are those of the string that they
give, and others are refused with an explanation. -/
inductive ReadsAsString (env : Environment) (bytes : Bytes) : Action Progress → Prop where
  | text (wellFormed : WellFormed bytes)
      (back : standardRegistry.callMethod "toBytes" env [.string text] =
        pure (.finished (.bytes bytes))) :
      ReadsAsString env bytes (pure (.finished (.string text)))
  | refused (malformed : ¬WellFormed bytes) (explains : error.Explains bytes) :
      ReadsAsString env bytes (throw (.invalidArgument (.notUtf8 error)))

theorem readsAsString (env : Environment) (bytes : Bytes) :
    ReadsAsString env bytes (standardRegistry.callMethod "toString" env [.bytes bytes]) := by
  rw [callMethod_toString, ofBytes]
  cases decoded : decode bytes with
  | ok chars =>
    have same := decode_eq_ok_iff.mp decoded
    refine .text (same ▸ wellFormed_encode chars) ?_
    rw [callMethod_toBytes, Text.toBytes, String.toList_ofList, same]
  | error error =>
    refine .refused (fun wellFormed => ?_) (explains_of_decode decoded)
    obtain ⟨chars, same⟩ := wellFormed_iff_exists.mp wellFormed
    rw [decode_eq_ok_iff.mpr same] at decoded
    cases decoded

/-- Every string has bytes, which are read as that string and begin as many characters as it is
long; and bytes are read as a string exactly if they are well-formed. -/
theorem strings_and_bytes_convert (env : Environment) :
    (∀ text, ∃ bytes,
      standardRegistry.callMethod "toBytes" env [.string text] = pure (.finished (.bytes bytes)) ∧
      standardRegistry.callMethod "toString" env [.bytes bytes] = pure (.finished (.string text)) ∧
      standardRegistry.callMethod "len" env [.string text] =
        pure (.finished (.ofNat (bytes.countP (¬IsContinuation ·))))) ∧
    ∀ bytes, ReadsAsString env bytes
      (standardRegistry.callMethod "toString" env [.bytes bytes]) := by
  refine ⟨fun text => ⟨Text.toBytes text, callMethod_toBytes env text, ?_, ?_⟩, readsAsString env⟩
  · rw [callMethod_toString, ofBytes, Text.toBytes, decode_encode]
    simp only [Except.map, String.ofList_toList]
  · rw [callMethod_length, Text.toBytes, countP_encode, String.length_toList]

end ScriptHost
