import ScriptHost.Text.Utf8

/-! Decoding inverts encoding, and nothing but an encoded text decodes: every text has one spelling
in bytes. -/
namespace ScriptHost.Text

theorem encode_append (first second : List Char) :
    encode (first ++ second) = encode first ++ encode second := List.flatMap_append

theorem encode_cons (char : Char) (chars : List Char) :
    encode (char :: chars) = String.utf8EncodeChar char ++ encode chars := List.flatMap_cons

theorem toBytes_append (first second : String) :
    toBytes (first ++ second) = toBytes first ++ toBytes second := by
  rw [toBytes, String.toList_append, encode_append, toBytes, toBytes]

theorem toBytes_join (texts : List String) :
    toBytes (String.join texts) = texts.flatMap toBytes := by
  rw [toBytes, String.toList_join, encode, List.flatMap_assoc]
  rfl

theorem toNat_range (char : Char) :
    char.toNat < 0xD800 ∨ 0xDFFF < char.toNat ∧ char.toNat < 0x110000 := char.valid

theorem toNat_ofNat {code : Nat} (valid : code < 0xD800 ∨ 0xDFFF < code ∧ code < 0x110000) :
    (Char.ofNat code).toNat = code := by
  have accepted : code.isValidChar := valid
  rw [Char.ofNat, dif_pos accepted]
  rfl

theorem utf8EncodeChar_of_ascii {char : Char} (ascii : char.toNat < 0x80) :
    String.utf8EncodeChar char = [UInt8.ofNat char.toNat] := if_pos (Nat.le_of_lt_succ ascii)

/-- No byte of a longer character is below 128. -/
theorem high_of_mem_utf8EncodeChar {char : Char} {byte : UInt8} (long : 0x80 ≤ char.toNat)
    (member : byte ∈ String.utf8EncodeChar char) : 0x80 ≤ byte.toNat := by
  have range := toNat_range char
  unfold String.utf8EncodeChar at member
  change byte ∈ if char.toNat ≤ 0x7F then _ else _ at member
  rw [if_neg (by omega)] at member
  split at member
  · simp only [List.mem_cons, List.not_mem_nil, or_false] at member
    rcases member with rfl | rfl <;> simp only [UInt8.toNat_ofNat'] <;> omega
  · split at member
    · simp only [List.mem_cons, List.not_mem_nil, or_false] at member
      rcases member with rfl | rfl | rfl <;> simp only [UInt8.toNat_ofNat'] <;> omega
    · simp only [List.mem_cons, List.not_mem_nil, or_false] at member
      rcases member with rfl | rfl | rfl | rfl <;> simp only [UInt8.toNat_ofNat'] <;> omega

theorem lead_of_two {byte : Nat} (low : 0xC2 ≤ byte) (high : byte < 0xE0) :
    lead byte = .opens ⟨1, 1, 0x80, 0xBF, byte - 0xC0⟩ := by
  unfold lead
  rw [if_neg (by omega), if_neg (by omega), if_pos high]

theorem lead_of_three {byte : Nat} (low : 0xE0 ≤ byte) (high : byte < 0xF0) :
    lead byte = .opens ⟨1, 2, if byte = 0xE0 then 0xA0 else 0x80,
      if byte = 0xED then 0x9F else 0xBF, byte - 0xE0⟩ := by
  unfold lead
  rw [if_neg (by omega), if_neg (by omega), if_neg (by omega)]
  by_cases first : byte = 0xE0
  · subst first; rfl
  · by_cases surrogates : byte = 0xED
    · subst surrogates; rfl
    · rw [if_neg first, if_neg surrogates, if_pos high, if_neg first, if_neg surrogates]

theorem lead_of_four {byte : Nat} (low : 0xF0 ≤ byte) (high : byte < 0xF5) :
    lead byte = .opens ⟨1, 3, if byte = 0xF0 then 0x90 else 0x80,
      if byte = 0xF4 then 0x8F else 0xBF, byte - 0xF0⟩ := by
  unfold lead
  rw [if_neg (by omega), if_neg (by omega), if_neg (by omega), if_neg (by omega),
    if_neg (by omega), if_neg (by omega)]
  by_cases first : byte = 0xF0
  · subst first; rfl
  · by_cases last : byte = 0xF4
    · subst last; rfl
    · rw [if_neg first, if_pos (by omega), if_neg first, if_neg last]

theorem lead_of_none {byte : Nat} (outside : 0x80 ≤ byte ∧ byte < 0xC2 ∨ 0xF5 ≤ byte) :
    lead byte = .none := by
  unfold lead
  rcases outside with ⟨low, high⟩ | high
  · rw [if_neg (by omega), if_pos high]
  · rw [if_neg (by omega), if_neg (by omega), if_neg (by omega), if_neg (by omega),
      if_neg (by omega), if_neg (by omega), if_neg (by omega), if_neg (by omega),
      if_neg (by omega)]

theorem utf8EncodeChar_of_toNat {char : Char} {code : Nat} (same : char.toNat = code) :
    String.utf8EncodeChar char =
      if code ≤ 0x7F then [UInt8.ofNat code]
      else if code ≤ 0x7FF then
        [UInt8.ofNat (code / 64 % 0x20 + 0xC0), UInt8.ofNat (code % 0x40 + 0x80)]
      else if code ≤ 0xFFFF then
        [UInt8.ofNat (code / 4096 % 0x10 + 0xE0), UInt8.ofNat (code / 64 % 0x40 + 0x80),
          UInt8.ofNat (code % 0x40 + 0x80)]
      else
        [UInt8.ofNat (code / 262144 % 0x08 + 0xF0), UInt8.ofNat (code / 4096 % 0x40 + 0x80),
          UInt8.ofNat (code / 64 % 0x40 + 0x80), UInt8.ofNat (code % 0x40 + 0x80)] := by
  subst same
  rfl

private theorem ofNat_eq (byte : UInt8) {number : Nat} (same : number = byte.toNat) :
    UInt8.ofNat number = byte := by
  subst same
  exact UInt8.ofNat_toNat

theorem utf8EncodeChar_ofNat_two {first second : UInt8} (low : 0xC2 ≤ first.toNat)
    (high : first.toNat < 0xE0) (tail : 0x80 ≤ second.toNat ∧ second.toNat ≤ 0xBF) :
    String.utf8EncodeChar (Char.ofNat ((first.toNat - 0xC0) * 64 + (second.toNat - 0x80))) =
      [first, second] := by
  rw [utf8EncodeChar_of_toNat (toNat_ofNat (.inl (by omega))), if_neg (by omega),
    if_pos (by omega), ofNat_eq first (by omega), ofNat_eq second (by omega)]

theorem utf8EncodeChar_ofNat_three {first second third : UInt8} (low : 0xE0 ≤ first.toNat)
    (high : first.toNat < 0xF0)
    (middle : (if first.toNat = 0xE0 then 0xA0 else 0x80) ≤ second.toNat ∧
      second.toNat ≤ if first.toNat = 0xED then 0x9F else 0xBF)
    (tail : 0x80 ≤ third.toNat ∧ third.toNat ≤ 0xBF) :
    String.utf8EncodeChar (Char.ofNat
      (((first.toNat - 0xE0) * 64 + (second.toNat - 0x80)) * 64 + (third.toNat - 0x80))) =
      [first, second, third] := by
  obtain ⟨floor, ceiling⟩ := middle
  have least : 0x80 ≤ second.toNat ∧ (first.toNat = 0xE0 → 0xA0 ≤ second.toNat) := by
    split at floor <;> omega
  have most : second.toNat ≤ 0xBF ∧ (first.toNat = 0xED → second.toNat ≤ 0x9F) := by
    split at ceiling <;> omega
  clear floor ceiling
  rw [utf8EncodeChar_of_toNat (toNat_ofNat (by omega)), if_neg (by omega), if_neg (by omega),
    if_pos (by omega), ofNat_eq first (by omega), ofNat_eq second (by omega),
    ofNat_eq third (by omega)]

theorem utf8EncodeChar_ofNat_four {first second third fourth : UInt8} (low : 0xF0 ≤ first.toNat)
    (high : first.toNat < 0xF5)
    (middle : (if first.toNat = 0xF0 then 0x90 else 0x80) ≤ second.toNat ∧
      second.toNat ≤ if first.toNat = 0xF4 then 0x8F else 0xBF)
    (next : 0x80 ≤ third.toNat ∧ third.toNat ≤ 0xBF)
    (tail : 0x80 ≤ fourth.toNat ∧ fourth.toNat ≤ 0xBF) :
    String.utf8EncodeChar (Char.ofNat
      ((((first.toNat - 0xF0) * 64 + (second.toNat - 0x80)) * 64 + (third.toNat - 0x80)) * 64 +
        (fourth.toNat - 0x80))) = [first, second, third, fourth] := by
  obtain ⟨floor, ceiling⟩ := middle
  have least : 0x80 ≤ second.toNat ∧ (first.toNat = 0xF0 → 0x90 ≤ second.toNat) := by
    split at floor <;> omega
  have most : second.toNat ≤ 0xBF ∧ (first.toNat = 0xF4 → second.toNat ≤ 0x8F) := by
    split at ceiling <;> omega
  clear floor ceiling
  rw [utf8EncodeChar_of_toNat (toNat_ofNat (by omega)), if_neg (by omega), if_neg (by omega),
    if_neg (by omega), ofNat_eq first (by omega), ofNat_eq second (by omega),
    ofNat_eq third (by omega), ofNat_eq fourth (by omega)]

/-- A character that is begun goes on with a byte within its bounds. -/
theorem decodeFrom_begun {current : Partial} {bytes : Bytes} {index : Nat} {done chars : List Char}
    (decoded : decodeFrom index done (some current) bytes = .ok chars) :
    ∃ byte rest, bytes = byte :: rest ∧ (current.low ≤ byte.toNat ∧ byte.toNat ≤ current.high) ∧
      (if current.owed ≤ 1 then
        decodeFrom (index + current.taken + 1)
          (Char.ofNat (current.code * 64 + (byte.toNat - 0x80)) :: done) none rest
      else decodeFrom index done (some ⟨current.taken + 1, current.owed - 1, 0x80, 0xBF,
        current.code * 64 + (byte.toNat - 0x80)⟩) rest) = .ok chars := by
  cases bytes with
  | nil => simp [decodeFrom] at decoded
  | cons byte rest =>
    rw [decodeFrom] at decoded
    by_cases bounds : current.low ≤ byte.toNat ∧ byte.toNat ≤ current.high
    · rw [if_pos bounds] at decoded
      exact ⟨byte, rest, rfl, bounds, decoded⟩
    · rw [if_neg bounds] at decoded
      contradiction

/-- Bytes that decode begin with the spelling of a character, and decoding goes on behind it. -/
theorem decodeFrom_cons {byte : UInt8} {bytes : Bytes} {index : Nat} {done chars : List Char}
    (decoded : decodeFrom index done none (byte :: bytes) = .ok chars) :
    ∃ char rest next, byte :: bytes = String.utf8EncodeChar char ++ rest ∧
      decodeFrom next (char :: done) none rest = .ok chars := by
  rw [decodeFrom] at decoded
  by_cases ascii : byte.toNat < 0x80
  · have single : lead byte.toNat = .single (Char.ofNat byte.toNat) := if_pos ascii
    rw [single] at decoded
    refine ⟨Char.ofNat byte.toNat, bytes, index + 1, ?_, decoded⟩
    have code : (Char.ofNat byte.toNat).toNat = byte.toNat := toNat_ofNat (.inl (by omega))
    rw [utf8EncodeChar_of_ascii (by omega), code, UInt8.ofNat_toNat]
    rfl
  · by_cases outside : byte.toNat < 0xC2 ∨ 0xF5 ≤ byte.toNat
    · rw [lead_of_none (by omega)] at decoded
      contradiction
    · by_cases two : byte.toNat < 0xE0
      · rw [lead_of_two (by omega) two] at decoded
        obtain ⟨second, rest, rfl, tail, decoded⟩ := decodeFrom_begun decoded
        refine ⟨_, rest, _, ?_, decoded⟩
        rw [utf8EncodeChar_ofNat_two (by omega) two tail]
        rfl
      · by_cases three : byte.toNat < 0xF0
        · rw [lead_of_three (by omega) three] at decoded
          obtain ⟨second, rest, rfl, middle, decoded⟩ := decodeFrom_begun decoded
          obtain ⟨third, rest, rfl, tail, decoded⟩ := decodeFrom_begun decoded
          refine ⟨_, rest, _, ?_, decoded⟩
          rw [utf8EncodeChar_ofNat_three (by omega) three middle tail]
          rfl
        · rw [lead_of_four (by omega) (by omega)] at decoded
          obtain ⟨second, rest, rfl, middle, decoded⟩ := decodeFrom_begun decoded
          obtain ⟨third, rest, rfl, next, decoded⟩ := decodeFrom_begun decoded
          obtain ⟨fourth, rest, rfl, tail, decoded⟩ := decodeFrom_begun decoded
          refine ⟨_, rest, _, ?_, decoded⟩
          rw [utf8EncodeChar_ofNat_four (by omega) (by omega) middle next tail]
          rfl

theorem decodeFrom_more {taken owed low high code index : Nat} {done : List Char} {byte : UInt8}
    {rest : Bytes} (bounds : low ≤ byte.toNat ∧ byte.toNat ≤ high) (more : ¬ owed ≤ 1) :
    decodeFrom index done (some ⟨taken, owed, low, high, code⟩) (byte :: rest) =
      decodeFrom index done (some ⟨taken + 1, owed - 1, 0x80, 0xBF,
        code * 64 + (byte.toNat - 0x80)⟩) rest := by
  rw [decodeFrom]
  exact (if_pos bounds).trans (if_neg more)

theorem decodeFrom_last {taken low high code index : Nat} {done : List Char} {byte : UInt8}
    {rest : Bytes} (bounds : low ≤ byte.toNat ∧ byte.toNat ≤ high) :
    decodeFrom index done (some ⟨taken, 1, low, high, code⟩) (byte :: rest) =
      decodeFrom (index + (taken + 1)) (Char.ofNat (code * 64 + (byte.toNat - 0x80)) :: done)
        none rest := by
  rw [decodeFrom]
  exact (if_pos bounds).trans (if_pos (Nat.le_refl 1))

/-- Decoding takes the spelling of a character off the front. -/
theorem decodeFrom_encodeChar (index : Nat) (done : List Char) (char : Char) (rest : Bytes) :
    decodeFrom index done none (String.utf8EncodeChar char ++ rest) =
      decodeFrom (index + (String.utf8EncodeChar char).length) (char :: done) none rest := by
  have range := toNat_range char
  have same : Char.ofNat char.toNat = char := Char.ofNat_toNat char
  have byte {number : Nat} (small : number < 256) : (UInt8.ofNat number).toNat = number :=
    UInt8.toNat_ofNat_of_lt' small
  rw [utf8EncodeChar_of_toNat rfl]
  generalize char.toNat = code at range same
  by_cases one : code ≤ 0x7F
  · have single : lead code = .single (Char.ofNat code) := if_pos (by omega)
    rw [if_pos one, List.singleton_append, decodeFrom, byte (by omega), single, same]
    rfl
  · by_cases two : code ≤ 0x7FF
    · rw [if_neg one, if_pos two, List.cons_append, List.cons_append, decodeFrom,
        byte (by omega), lead_of_two (by omega) (by omega)]
      dsimp only
      rw [decodeFrom_last (by rw [byte (by omega)]; omega), byte (by omega),
        show (code / 64 % 0x20 + 0xC0 - 0xC0) * 64 + (code % 0x40 + 0x80 - 0x80) = code by omega,
        same]
      rfl
    · by_cases three : code ≤ 0xFFFF
      · rw [if_neg one, if_neg two, if_pos three, List.cons_append, List.cons_append,
          List.cons_append, decodeFrom, byte (by omega), lead_of_three (by omega) (by omega)]
        dsimp only
        rw [decodeFrom_more (by rw [byte (by omega)]; constructor <;> split <;> omega) (by omega),
          byte (by omega), decodeFrom_last (by rw [byte (by omega)]; omega), byte (by omega),
          show ((code / 4096 % 0x10 + 0xE0 - 0xE0) * 64 + (code / 64 % 0x40 + 0x80 - 0x80)) * 64 +
            (code % 0x40 + 0x80 - 0x80) = code by omega, same]
        rfl
      · rw [if_neg one, if_neg two, if_neg three, List.cons_append, List.cons_append,
          List.cons_append, List.cons_append, decodeFrom, byte (by omega),
          lead_of_four (by omega) (by omega)]
        dsimp only
        rw [decodeFrom_more (by rw [byte (by omega)]; constructor <;> split <;> omega) (by omega),
          byte (by omega), decodeFrom_more (by rw [byte (by omega)]; omega) (by omega),
          byte (by omega), decodeFrom_last (by rw [byte (by omega)]; omega), byte (by omega),
          show (((code / 262144 % 0x08 + 0xF0 - 0xF0) * 64 +
            (code / 4096 % 0x40 + 0x80 - 0x80)) * 64 + (code / 64 % 0x40 + 0x80 - 0x80)) * 64 +
            (code % 0x40 + 0x80 - 0x80) = code by omega, same]
        rfl

theorem decodeFrom_encode (index : Nat) (done chars : List Char) (rest : Bytes) :
    decodeFrom index done none (encode chars ++ rest) =
      decodeFrom (index + (encode chars).length) (chars.reverse ++ done) none rest := by
  induction chars generalizing index done with
  | nil => rfl
  | cons char chars ih =>
    rw [encode_cons, List.append_assoc, decodeFrom_encodeChar, ih]
    simp [Nat.add_assoc]

theorem decode_encode (chars : List Char) : decode (encode chars) = .ok chars := by
  have decoded := decodeFrom_encode 0 [] chars []
  rw [List.append_nil, List.append_nil] at decoded
  rw [decode, decoded, decodeFrom, List.reverse_reverse]

theorem decodeFrom_eq_ok {bytes : Bytes} {index : Nat} {done chars : List Char}
    (decoded : decodeFrom index done none bytes = .ok chars) :
    ∃ more, chars = done.reverse ++ more ∧ bytes = encode more := by
  induction size : bytes.length using Nat.strongRecOn generalizing bytes index done with
  | ind count ih =>
    cases bytes with
    | nil =>
      rw [decodeFrom] at decoded
      exact ⟨[], by simpa using (Except.ok.inj decoded).symm, rfl⟩
    | cons byte bytes =>
      obtain ⟨char, rest, next, spelled, decoded⟩ := decodeFrom_cons decoded
      have shorter : rest.length < count := by
        have some := List.length_pos_iff.mpr (String.utf8EncodeChar_ne_nil (c := char))
        rw [← size, spelled, List.length_append]
        omega
      obtain ⟨more, same, encoded⟩ := ih rest.length shorter decoded rfl
      refine ⟨char :: more, ?_, ?_⟩
      · simpa using same
      · rw [spelled, encoded, encode_cons]

theorem decode_eq_ok_iff {bytes : Bytes} {chars : List Char} :
    decode bytes = .ok chars ↔ bytes = encode chars := by
  constructor
  · intro decoded
    obtain ⟨more, same, encoded⟩ := decodeFrom_eq_ok decoded
    rw [encoded, same]
    rfl
  · intro same
    subst same
    exact decode_encode chars

theorem encode_injective : Function.Injective encode := by
  intro first second same
  have decoded := decode_encode first
  rw [same, decode_encode] at decoded
  exact (Except.ok.inj decoded).symm

/-- Bytes spell a text exactly when they are its bytes. -/
theorem ofBytes?_eq_some_iff {bytes : Bytes} {text : String} :
    ofBytes? bytes = some text ↔ bytes = toBytes text := by
  unfold ofBytes? ofBytes toBytes
  cases decoded : decode bytes with
  | error error =>
    simp only [Except.map, Except.toOption]
    constructor
    · intro absurdity; contradiction
    · intro same
      rw [same, decode_encode] at decoded
      contradiction
  | ok chars =>
    simp only [Except.map, Except.toOption, Option.some.injEq]
    rw [decode_eq_ok_iff] at decoded
    rw [decoded]
    constructor
    · intro same
      subst same
      rw [String.toList_ofList]
    · intro same
      rw [encode_injective same, String.ofList_toList]

theorem ofBytes?_toBytes (text : String) : ofBytes? (toBytes text) = some text :=
  ofBytes?_eq_some_iff.mpr rfl

/-- A byte below 128 stands for itself: it occurs exactly where its character does. -/
theorem mem_encode_iff {char : Char} {chars : List Char} (ascii : char.toNat < 0x80) :
    UInt8.ofNat char.toNat ∈ encode chars ↔ char ∈ chars := by
  induction chars with
  | nil => simp [encode]
  | cons first chars ih =>
    rw [encode_cons, List.mem_append, ih, List.mem_cons]
    refine or_congr_left ?_
    have small : (UInt8.ofNat char.toNat).toNat = char.toNat := UInt8.toNat_ofNat_of_lt' (by
      simp only [UInt8.size]; omega)
    by_cases single : first.toNat < 0x80
    · rw [utf8EncodeChar_of_ascii single, List.mem_singleton]
      constructor
      · intro same
        have code : char.toNat = first.toNat := by
          have toNat := congrArg UInt8.toNat same
          rwa [small, UInt8.toNat_ofNat_of_lt' (by simp only [UInt8.size]; omega)] at toNat
        exact Char.toNat_inj.mp code
      · intro same
        subst same
        rfl
    · constructor
      · intro member
        have high := high_of_mem_utf8EncodeChar (by omega) member
        omega
      · intro same
        subst same
        exact absurd ascii single

end ScriptHost.Text
