/-!
# Byte orders

A word is stored in a fixed number of bytes, least significant first or most
significant first.  The second order is the first one reversed, so every law
is proved once for the little-endian digits and carried over by `arrange`.
The main statements say that decoding a word and encoding it undo each other.
-/

namespace MachO

abbrev Bytes := List UInt8

inductive ByteOrder
  | little
  | big
  deriving DecidableEq

namespace ByteOrder

/-- The number whose base-256 digits are given, least significant first. -/
def ofDigits : Bytes → Nat
  | [] => 0
  | digit :: rest => digit.toNat + 256 * ofDigits rest

/-- How many numbers fit so many bytes. -/
def capacity : (width : Nat) → Nat
  | 0 => 1
  | width + 1 => 256 * capacity width

/-- The lowest `width` base-256 digits of a number, least significant
first. -/
def digits : (width : Nat) → (number : Nat) → Bytes
  | 0, _ => []
  | width + 1, number => UInt8.ofNat number :: digits width (number / 256)

/-- Puts digits that start with the least significant one into storage
order, and back. -/
def arrange : ByteOrder → Bytes → Bytes
  | little, stored => stored
  | big, stored => stored.reverse

def decode (order : ByteOrder) (stored : Bytes) : Nat :=
  ofDigits (order.arrange stored)

/-- The bytes that store a number, less what does not fit `width` bytes. -/
def encode (order : ByteOrder) (width number : Nat) : Bytes :=
  order.arrange (digits width number)

@[simp] theorem length_arrange (order : ByteOrder) (stored : Bytes) :
    (order.arrange stored).length = stored.length := by
  cases order <;> simp [arrange]

@[simp] theorem arrange_arrange (order : ByteOrder) (stored : Bytes) :
    order.arrange (order.arrange stored) = stored := by
  cases order <;> simp [arrange]

@[simp] theorem length_digits (width number : Nat) :
    (digits width number).length = width := by
  induction width generalizing number with
  | zero => rfl
  | succ width ih => simp [digits, ih]

@[simp] theorem length_encode (order : ByteOrder) (width number : Nat) :
    (order.encode width number).length = width := by
  simp [encode]

theorem ofDigits_digits (width number : Nat) :
    ofDigits (digits width number) = number % capacity width := by
  induction width generalizing number with
  | zero => simp [digits, ofDigits, capacity, Nat.mod_one]
  | succ width ih =>
      have hlow : (UInt8.ofNat number).toNat = number % 256 := by simp
      rw [digits, ofDigits, ih, hlow, capacity, Nat.mod_mul]

theorem digits_ofDigits (stored : Bytes) :
    digits stored.length (ofDigits stored) = stored := by
  induction stored with
  | nil => rfl
  | cons digit rest ih =>
      have hdigit : digit.toNat < 256 := digit.toNat_lt
      have hlow : UInt8.ofNat (digit.toNat + 256 * ofDigits rest) = digit := by
        apply UInt8.toNat_inj.mp
        simp only [UInt8.toNat_ofNat']
        omega
      have hhigh : (digit.toNat + 256 * ofDigits rest) / 256 = ofDigits rest := by
        omega
      simp [digits, ofDigits, hlow, hhigh, ih]

theorem ofDigits_lt (stored : Bytes) :
    ofDigits stored < capacity stored.length := by
  induction stored with
  | nil => simp [ofDigits, capacity]
  | cons digit rest ih =>
      have hdigit : digit.toNat < 256 := digit.toNat_lt
      simp only [ofDigits, List.length_cons, capacity]
      omega

theorem decode_lt (order : ByteOrder) (stored : Bytes) :
    order.decode stored < capacity stored.length := by
  simpa [decode] using ofDigits_lt (order.arrange stored)

/-- An encoded number reads back, up to what fits. -/
theorem decode_encode (order : ByteOrder) (width number : Nat) :
    order.decode (order.encode width number) = number % capacity width := by
  simp [decode, encode, ofDigits_digits]

theorem encode_decode (order : ByteOrder) (stored : Bytes) :
    order.encode stored.length (order.decode stored) = stored := by
  have h := digits_ofDigits (order.arrange stored)
  rw [length_arrange] at h
  simp [encode, decode, h]

def word32 (order : ByteOrder) (stored : Bytes) : UInt32 :=
  UInt32.ofNat (order.decode stored)

def word64 (order : ByteOrder) (stored : Bytes) : UInt64 :=
  UInt64.ofNat (order.decode stored)

def ofWord32 (order : ByteOrder) (word : UInt32) : Bytes :=
  order.encode 4 word.toNat

def ofWord64 (order : ByteOrder) (word : UInt64) : Bytes :=
  order.encode 8 word.toNat

@[simp] theorem length_ofWord32 (order : ByteOrder) (word : UInt32) :
    (order.ofWord32 word).length = 4 := by
  simp [ofWord32]

@[simp] theorem length_ofWord64 (order : ByteOrder) (word : UInt64) :
    (order.ofWord64 word).length = 8 := by
  simp [ofWord64]

@[simp] theorem word32_ofWord32 (order : ByteOrder) (word : UInt32) :
    order.word32 (order.ofWord32 word) = word := by
  have hword : word.toNat < 2 ^ 32 := word.toNat_lt
  apply UInt32.toNat_inj.mp
  simp only [word32, ofWord32, decode_encode, capacity,
    UInt32.toNat_ofNat']
  omega

@[simp] theorem word64_ofWord64 (order : ByteOrder) (word : UInt64) :
    order.word64 (order.ofWord64 word) = word := by
  have hword : word.toNat < 2 ^ 64 := word.toNat_lt
  apply UInt64.toNat_inj.mp
  simp only [word64, ofWord64, decode_encode, capacity,
    UInt64.toNat_ofNat']
  omega

theorem ofWord32_word32 (order : ByteOrder) {stored : Bytes}
    (hlength : stored.length = 4) :
    order.ofWord32 (order.word32 stored) = stored := by
  have hbound : order.decode stored < capacity 4 :=
    hlength ▸ order.decode_lt stored
  have hword : (order.word32 stored).toNat = order.decode stored := by
    simp only [word32, UInt32.toNat_ofNat', capacity] at hbound ⊢
    omega
  have hback := order.encode_decode stored
  rw [hlength] at hback
  rw [ofWord32, hword, hback]

theorem ofWord64_word64 (order : ByteOrder) {stored : Bytes}
    (hlength : stored.length = 8) :
    order.ofWord64 (order.word64 stored) = stored := by
  have hbound : order.decode stored < capacity 8 :=
    hlength ▸ order.decode_lt stored
  have hword : (order.word64 stored).toNat = order.decode stored := by
    simp only [word64, UInt64.toNat_ofNat', capacity] at hbound ⊢
    omega
  have hback := order.encode_decode stored
  rw [hlength] at hback
  rw [ofWord64, hword, hback]

def word32At (order : ByteOrder) (bytes : Bytes) (offset : Nat) : UInt32 :=
  order.word32 ((bytes.drop offset).take 4)

end ByteOrder

end MachO
