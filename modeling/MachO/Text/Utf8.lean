import MachO.ByteOrder

/-!
# UTF-8

Text as bytes, and bytes as text.  Decoding accepts every byte string: the
longest start of a well-formed character that is not continued, or else a
single byte that starts none, stands for one replacement character.

The decoder takes one byte at a time.  Its state is the character that has
begun and is not complete, if any, with the range that its next byte must lie
in; a narrowed range is what excludes overlong forms, surrogates and numbers
past U+10FFFF.  The main statement is `decode_encode`: no text is changed by
being stored.
-/

namespace MachO.Text.Utf8

def encode (text : String) : Bytes :=
  text.toList.flatMap String.utf8EncodeChar

/-- What stands for bytes that are no character. -/
def replacement : Char := '\uFFFD'

/-- A character that has begun: its bits so far, the least and the greatest
next byte, and how many bytes it lacks after that one. -/
structure Unfinished where
  bits : Nat
  least : Nat
  greatest : Nat
  lacking : Nat
  deriving DecidableEq

/-- What a byte does that does not continue a character. -/
inductive Lead
  | whole (char : Char)
  | opens (char : Unfinished)
  | stray
  deriving DecidableEq

/-- Sorts first bytes: one byte for ASCII, two from `C2`, three from `E0`,
four from `F0` to `F4`. -/
def lead (byte : UInt8) : Lead :=
  let code := byte.toNat
  if code < 0x80 then .whole (Char.ofNat code)
  else if code < 0xC2 then .stray
  else if code < 0xE0 then .opens ⟨code - 0xC0, 0x80, 0xBF, 0⟩
  else if code < 0xF0 then
    .opens ⟨code - 0xE0, if code = 0xE0 then 0xA0 else 0x80,
      if code = 0xED then 0x9F else 0xBF, 1⟩
  else if code < 0xF5 then
    .opens ⟨code - 0xF0, if code = 0xF0 then 0x90 else 0x80,
      if code = 0xF4 then 0x8F else 0xBF, 2⟩
  else .stray

/-- Takes a byte that begins anew. -/
def begin (byte : UInt8) : List Char × Option Unfinished :=
  match lead byte with
  | .whole char => ([char], none)
  | .opens char => ([], some char)
  | .stray => ([replacement], none)

/-- Takes a byte after the start of a character. -/
def Unfinished.continue (char : Unfinished) (byte : UInt8) :
    List Char × Option Unfinished :=
  let code := byte.toNat
  if char.least ≤ code ∧ code ≤ char.greatest then
    let bits := char.bits * 64 + (code - 0x80)
    match char.lacking with
    | 0 => ([Char.ofNat bits], none)
    | lacking + 1 => ([], some ⟨bits, 0x80, 0xBF, lacking⟩)
  else
    let (chars, next) := begin byte
    (replacement :: chars, next)

def step : Option Unfinished → UInt8 → List Char × Option Unfinished
  | none, byte => begin byte
  | some char, byte => char.continue byte

/-- The characters that the bytes give after an unfinished one. -/
def decodeFrom : Option Unfinished → Bytes → List Char
  | none, [] => []
  | some _, [] => [replacement]
  | state, byte :: rest =>
      (step state byte).1 ++ decodeFrom (step state byte).2 rest

def decode (bytes : Bytes) : String :=
  String.ofList (decodeFrom none bytes)

theorem decodeFrom_whole {byte : UInt8} {char : Char} (rest : Bytes)
    (hlead : lead byte = .whole char) :
    decodeFrom none (byte :: rest) = char :: decodeFrom none rest := by
  simp only [decodeFrom, step, begin, hlead, List.singleton_append]

theorem decodeFrom_opens {byte : UInt8} {char : Unfinished} (rest : Bytes)
    (hlead : lead byte = .opens char) :
    decodeFrom none (byte :: rest) = decodeFrom (some char) rest := by
  simp only [decodeFrom, step, begin, hlead, List.nil_append]

theorem decodeFrom_last {bits least greatest : Nat} {byte : UInt8}
    (rest : Bytes)
    (hrange : least ≤ byte.toNat ∧ byte.toNat ≤ greatest) :
    decodeFrom (some ⟨bits, least, greatest, 0⟩) (byte :: rest) =
      Char.ofNat (bits * 64 + (byte.toNat - 0x80)) :: decodeFrom none rest := by
  simp only [decodeFrom, step, Unfinished.continue, hrange, and_self, if_true,
    List.singleton_append]

theorem decodeFrom_further {bits least greatest lacking : Nat} {byte : UInt8}
    (rest : Bytes)
    (hrange : least ≤ byte.toNat ∧ byte.toNat ≤ greatest) :
    decodeFrom (some ⟨bits, least, greatest, lacking + 1⟩) (byte :: rest) =
      decodeFrom
        (some ⟨bits * 64 + (byte.toNat - 0x80), 0x80, 0xBF, lacking⟩) rest := by
  simp only [decodeFrom, step, Unfinished.continue, hrange, and_self, if_true,
    List.nil_append]

private theorem toNat_byte {code : Nat} (hcode : code < 256) :
    (UInt8.ofNat code).toNat = code := by
  simp only [UInt8.toNat_ofNat']
  omega

/-- The bytes of a character decode to it, whatever follows them. -/
theorem decodeFrom_utf8EncodeChar (char : Char) (rest : Bytes) :
    decodeFrom none (String.utf8EncodeChar char ++ rest) =
      char :: decodeFrom none rest := by
  have hvalid :
      char.toNat < 0xD800 ∨ 0xDFFF < char.toNat ∧ char.toNat < 0x110000 :=
    char.valid
  have hchar : Char.ofNat char.toNat = char := Char.ofNat_toNat char
  have hcode : char.val.toNat = char.toNat := rfl
  generalize char.toNat = code at hvalid hchar hcode
  rw [String.utf8EncodeChar, hcode]
  have hlast : (UInt8.ofNat (code % 64 + 128)).toNat = code % 64 + 128 :=
    toNat_byte (by omega)
  split
  · have hfirst : (UInt8.ofNat code).toNat = code := toNat_byte (by omega)
    have hlead : lead (UInt8.ofNat code) = .whole (Char.ofNat code) := by
      simp only [lead, hfirst]
      rw [if_pos (by omega)]
    rw [List.singleton_append, decodeFrom_whole rest hlead, hchar]
  · split
    · have hfirst : (UInt8.ofNat (code / 64 % 32 + 192)).toNat =
          code / 64 + 192 := by
        rw [toNat_byte (by omega)]
        omega
      have hlead : lead (UInt8.ofNat (code / 64 % 32 + 192)) =
          .opens ⟨code / 64, 0x80, 0xBF, 0⟩ := by
        simp only [lead, hfirst]
        rw [if_neg (by omega), if_neg (by omega), if_pos (by omega),
          Nat.add_sub_cancel]
      rw [List.cons_append, List.singleton_append, decodeFrom_opens _ hlead,
        decodeFrom_last rest (by omega), hlast,
        show code / 64 * 64 + (code % 64 + 128 - 0x80) = code by omega, hchar]
    · split
      · have hfirst : (UInt8.ofNat (code / 4096 % 16 + 224)).toNat =
            code / 4096 + 224 := by
          rw [toNat_byte (by omega)]
          omega
        have hsecond : (UInt8.ofNat (code / 64 % 64 + 128)).toNat =
            code / 64 % 64 + 128 := toNat_byte (by omega)
        have hlead : lead (UInt8.ofNat (code / 4096 % 16 + 224)) =
            .opens ⟨code / 4096, if code / 4096 = 0 then 0xA0 else 0x80,
              if code / 4096 = 13 then 0x9F else 0xBF, 1⟩ := by
          simp only [lead, hfirst]
          rw [if_neg (by omega), if_neg (by omega), if_neg (by omega),
            if_pos (by omega), Nat.add_sub_cancel]
          simp only [show code / 4096 + 224 = 0xE0 ↔ code / 4096 = 0 by omega,
            show code / 4096 + 224 = 0xED ↔ code / 4096 = 13 by omega]
        rw [List.cons_append, List.cons_append, List.singleton_append,
          decodeFrom_opens _ hlead,
          decodeFrom_further _ (by rw [hsecond]; split <;> split <;> omega),
          decodeFrom_last rest (by omega), hlast, hsecond,
          show (code / 4096 * 64 + (code / 64 % 64 + 128 - 0x80)) * 64 +
            (code % 64 + 128 - 0x80) = code by omega, hchar]
      · have hfirst : (UInt8.ofNat (code / 262144 % 8 + 240)).toNat =
            code / 262144 + 240 := by
          rw [toNat_byte (by omega)]
          omega
        have hsecond : (UInt8.ofNat (code / 4096 % 64 + 128)).toNat =
            code / 4096 % 64 + 128 := toNat_byte (by omega)
        have hthird : (UInt8.ofNat (code / 64 % 64 + 128)).toNat =
            code / 64 % 64 + 128 := toNat_byte (by omega)
        have hlead : lead (UInt8.ofNat (code / 262144 % 8 + 240)) =
            .opens ⟨code / 262144, if code / 262144 = 0 then 0x90 else 0x80,
              if code / 262144 = 4 then 0x8F else 0xBF, 2⟩ := by
          simp only [lead, hfirst]
          rw [if_neg (by omega), if_neg (by omega), if_neg (by omega),
            if_neg (by omega), if_pos (by omega), Nat.add_sub_cancel]
          simp only [show code / 262144 + 240 = 0xF0 ↔ code / 262144 = 0 by omega,
            show code / 262144 + 240 = 0xF4 ↔ code / 262144 = 4 by omega]
        rw [List.cons_append, List.cons_append, List.cons_append,
          List.singleton_append, decodeFrom_opens _ hlead,
          decodeFrom_further _ (by rw [hsecond]; split <;> split <;> omega),
          decodeFrom_further _ (by omega),
          decodeFrom_last rest (by omega), hlast, hthird, hsecond,
          show ((code / 262144 * 64 + (code / 4096 % 64 + 128 - 0x80)) * 64 +
            (code / 64 % 64 + 128 - 0x80)) * 64 +
            (code % 64 + 128 - 0x80) = code by omega, hchar]

/-- A text and its bytes are decoded to the text. -/
theorem decodeFrom_encode (chars : List Char) (rest : Bytes) :
    decodeFrom none (chars.flatMap String.utf8EncodeChar ++ rest) =
      chars ++ decodeFrom none rest := by
  induction chars with
  | nil => rfl
  | cons char chars ih =>
      rw [List.flatMap_cons, List.append_assoc, decodeFrom_utf8EncodeChar, ih]
      rfl

theorem decode_encode (text : String) : decode (encode text) = text := by
  have h := decodeFrom_encode text.toList []
  rw [List.append_nil] at h
  simp [decode, encode, h, decodeFrom]

end MachO.Text.Utf8
