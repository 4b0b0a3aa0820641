import ScriptHost.Handle

/-!
Text as UTF-8 bytes. Decoding works one byte at a time and tells a sequence that can no longer
become a character from one that merely ends early.
-/
namespace ScriptHost.Text

/-- The UTF-8 bytes of a character sequence. -/
def encode (chars : List Char) : Bytes := chars.flatMap String.utf8EncodeChar

/-- The UTF-8 bytes of a text. -/
def toBytes (text : String) : Bytes := encode text.toList

/-- Why bytes are no text. Indices count bytes from the start. -/
inductive Utf8Error where
  /-- The bytes from the index on begin no character; `length` of them begin one at most. -/
  | invalid (length index : Nat)
  /-- The input ends inside the character that begins at the index. -/
  | incomplete (index : Nat)
  deriving DecidableEq, Repr

def Utf8Error.message : Utf8Error → String
  | .invalid length index => s!"invalid utf-8 sequence of {length} bytes from index {index}"
  | .incomplete index => s!"incomplete utf-8 byte sequence from index {index}"

/-- A character of which some bytes are read. -/
structure Partial where
  /-- Bytes read so far. -/
  taken : Nat
  /-- Bytes still to come. -/
  owed : Nat
  /-- Bounds of the next byte. -/
  low : Nat
  high : Nat
  /-- Code point bits read so far. -/
  code : Nat
  deriving DecidableEq, Repr

/-- What a byte between characters means. -/
inductive Lead where
  | single (char : Char)
  | opens (partialChar : Partial)
  | none
  deriving DecidableEq, Repr

/-- The bounds on the second byte keep out longer spellings than needed, surrogates and code
points beyond the last one. -/
def lead (byte : Nat) : Lead :=
  if byte < 0x80 then .single (Char.ofNat byte)
  else if byte < 0xC2 then .none
  else if byte < 0xE0 then .opens ⟨1, 1, 0x80, 0xBF, byte - 0xC0⟩
  else if byte = 0xE0 then .opens ⟨1, 2, 0xA0, 0xBF, 0⟩
  else if byte = 0xED then .opens ⟨1, 2, 0x80, 0x9F, 0xD⟩
  else if byte < 0xF0 then .opens ⟨1, 2, 0x80, 0xBF, byte - 0xE0⟩
  else if byte = 0xF0 then .opens ⟨1, 3, 0x90, 0xBF, 0⟩
  else if byte < 0xF4 then .opens ⟨1, 3, 0x80, 0xBF, byte - 0xF0⟩
  else if byte = 0xF4 then .opens ⟨1, 3, 0x80, 0x8F, 4⟩
  else .none

/-- Decode on, with the characters read so far in reverse; `index` is where the present character
begins. -/
def decodeFrom (index : Nat) (done : List Char) : Option Partial → Bytes →
    Except Utf8Error (List Char)
  | none, [] => .ok done.reverse
  | some _, [] => .error (.incomplete index)
  | none, byte :: rest =>
    match lead byte.toNat with
    | .single char => decodeFrom (index + 1) (char :: done) none rest
    | .opens partialChar => decodeFrom index done (some partialChar) rest
    | .none => .error (.invalid 1 index)
  | some current, byte :: rest =>
    if current.low ≤ byte.toNat ∧ byte.toNat ≤ current.high then
      let code := current.code * 64 + (byte.toNat - 0x80)
      if current.owed ≤ 1 then
        decodeFrom (index + current.taken + 1) (Char.ofNat code :: done) none rest
      else
        decodeFrom index done (some ⟨current.taken + 1, current.owed - 1, 0x80, 0xBF, code⟩) rest
    else .error (.invalid current.taken index)

/-- The characters that the bytes spell. -/
def decode (bytes : Bytes) : Except Utf8Error (List Char) := decodeFrom 0 [] none bytes

/-- The text that the bytes spell. -/
def ofBytes (bytes : Bytes) : Except Utf8Error String := (decode bytes).map String.ofList

/-- The text that the bytes spell, if they spell one. -/
def ofBytes? (bytes : Bytes) : Option String := (ofBytes bytes).toOption

end ScriptHost.Text
