import MachO.Proofs.FieldTable
import MachO.Section.Printer

/-!
# The four encodings of a section header

A section header has two forms, and each of them is stored in two byte orders.
The other order reverses the bytes of every number and leaves the names alone.
The 64-bit form has four more bytes for the address and for the size, and one
word more at the end.  Nothing else differs.

Both are said of the chunks into which the table of fields cuts an encoding.  A
table keeps in step with the values that are written through it, so its chunks
are the encodings of these values one by one, and what another order or another
width does to a record is settled value by value.
-/

namespace MachO

namespace ByteOrder

def other : ByteOrder → ByteOrder
  | little => big
  | big => little

/-- The number whose lowest `width` base-256 digits are those of the given one
in reverse. -/
def swapped : (width number : Nat) → Nat
  | 0, _ => 0
  | width + 1, number =>
      number % 256 * capacity width + swapped width (number / 256)

def swap32 (word : UInt32) : UInt32 :=
  UInt32.ofNat (swapped 4 word.toNat)

def swap64 (word : UInt64) : UInt64 :=
  UInt64.ofNat (swapped 8 word.toNat)

/-- The bytes of a number with zeros for the digits that a wider field has
above them. -/
def extend : ByteOrder → (width : Nat) → Bytes → Bytes
  | little, width, stored => stored.rightpad width 0
  | big, width, stored => stored.leftpad width 0

/-! ## Numbers in the other order -/

theorem ofDigits_append (low high : Bytes) :
    ofDigits (low ++ high) =
      ofDigits low + capacity low.length * ofDigits high := by
  induction low with
  | nil => simp [ofDigits, capacity]
  | cons digit rest ih =>
      simp only [List.cons_append, List.length_cons, ofDigits, capacity, ih]
      ring

theorem ofDigits_reverse (stored : Bytes) :
    ofDigits stored.reverse = swapped stored.length (ofDigits stored) := by
  induction stored with
  | nil => rfl
  | cons digit rest ih =>
      have hdigit : digit.toNat < 256 := digit.toNat_lt
      have hlow : (digit.toNat + 256 * ofDigits rest) % 256 = digit.toNat := by
        omega
      have hhigh : (digit.toNat + 256 * ofDigits rest) / 256 =
          ofDigits rest := by
        omega
      rw [List.reverse_cons, ofDigits_append, ih, List.length_reverse,
        List.length_cons, swapped]
      simp only [ofDigits, hlow, hhigh]
      ring

theorem decode_other (order : ByteOrder) (stored : Bytes) :
    order.other.decode stored =
      swapped stored.length (order.decode stored) := by
  cases order with
  | little => exact ofDigits_reverse stored
  | big =>
      have hback := ofDigits_reverse stored.reverse
      rw [List.reverse_reverse, List.length_reverse] at hback
      exact hback

theorem encode_other (order : ByteOrder) (width number : Nat) :
    order.other.encode width number =
      (order.encode width number).reverse := by
  cases order with
  | little => rfl
  | big => exact (List.reverse_reverse _).symm

theorem word32_other (order : ByteOrder) {stored : Bytes}
    (hlength : stored.length = 4) :
    order.other.word32 stored = swap32 (order.word32 stored) := by
  have hbound : order.decode stored < capacity 4 :=
    hlength ▸ order.decode_lt stored
  have hword : (order.word32 stored).toNat = order.decode stored :=
    UInt32.toNat_ofNat_of_lt hbound
  rw [swap32, hword, word32, decode_other, hlength]

example : swap32 0x01020304 = 0x04030201 := by decide

theorem word64_other (order : ByteOrder) {stored : Bytes}
    (hlength : stored.length = 8) :
    order.other.word64 stored = swap64 (order.word64 stored) := by
  have hbound : order.decode stored < capacity 8 :=
    hlength ▸ order.decode_lt stored
  have hword : (order.word64 stored).toNat = order.decode stored :=
    UInt64.toNat_ofNat_of_lt hbound
  rw [swap64, hword, word64, decode_other, hlength]

/-! ## Numbers in a wider field -/

theorem digits_zero (width : Nat) :
    digits width 0 = List.replicate width 0 := by
  induction width with
  | zero => rfl
  | succ width ih =>
      rw [digits, Nat.zero_div, ih]
      rfl

theorem digits_add (width more number : Nat) :
    digits (width + more) number =
      digits width number ++ digits more (number / capacity width) := by
  induction width generalizing number with
  | zero => simp [digits, capacity]
  | succ width ih =>
      rw [Nat.succ_add, digits, digits, ih, Nat.div_div_eq_div_mul, capacity]
      rfl

/-- A number that fits some bytes has zeros in those that follow. -/
theorem encode_add (order : ByteOrder) {width number : Nat} (more : Nat)
    (hfits : number < capacity width) :
    order.encode (width + more) number =
      order.extend (width + more) (order.encode width number) := by
  have hdigits : digits (width + more) number =
      (digits width number).rightpad (width + more) 0 := by
    rw [digits_add, Nat.div_eq_of_lt hfits, digits_zero, List.rightpad,
      length_digits, Nat.add_sub_cancel_left]
  rw [encode, encode, hdigits]
  cases order with
  | little => rfl
  | big => simp [arrange, extend, List.rightpad, List.leftpad]

theorem ofWord64_toUInt64 (order : ByteOrder) (word : UInt32) :
    order.ofWord64 word.toUInt64 = order.extend 8 (order.ofWord32 word) := by
  rw [ofWord64, UInt32.toNat_toUInt64]
  exact order.encode_add 4 word.toNat_lt

end ByteOrder

/-! ## Values -/

namespace Value

def swapped : Value → Value
  | word32 word => word32 (ByteOrder.swap32 word)
  | word64 word => word64 (ByteOrder.swap64 word)
  | name contents => name contents

theorem decode_other (order : ByteOrder) {stored : Bytes} {kind : Kind}
    (hlength : stored.length = kind.width) :
    decode order.other stored kind = (decode order stored kind).swapped := by
  cases kind with
  | word32 => exact congrArg word32 (order.word32_other hlength)
  | word64 => exact congrArg word64 (order.word64_other hlength)
  | name => rfl

/-- No number is as wide as a name. -/
theorem encode_other (order : ByteOrder) (value : Value) :
    value.encode order.other =
      if value.kind.width = FixedName.width then value.encode order
      else (value.encode order).reverse := by
  cases value with
  | word32 word =>
      have hwidth : (word32 word).kind.width ≠ FixedName.width := by
        simp only [kind, Kind.width, FixedName.width]
        decide
      rw [if_neg hwidth]
      exact order.encode_other 4 word.toNat
  | word64 word =>
      have hwidth : (word64 word).kind.width ≠ FixedName.width := by
        simp only [kind, Kind.width, FixedName.width]
        decide
      rw [if_neg hwidth]
      exact order.encode_other 8 word.toNat
  | name contents =>
      have hwidth : (name contents).kind.width = FixedName.width := by
        simp only [kind, Kind.width]
      rw [if_pos hwidth]
      rfl

end Value

/-! ## Chunks of a table -/

namespace Field

/-- Cuts bytes into chunks of the widths of a table. -/
def cut : List Field → Bytes → List (Field × Bytes)
  | [], _ => []
  | field :: fields, stored =>
      (field, stored.take field.width) ::
        cut fields (stored.drop field.width)

/-- Bytes with every chunk reversed that is not as wide as a name. -/
def reverseNumbers (fields : List Field) (stored : Bytes) : Bytes :=
  (cut fields stored).flatMap fun (field, chunk) =>
    if field.width = FixedName.width then chunk else chunk.reverse

/-- Bytes with the chunks for address and size extended to eight bytes. -/
def extendRange (order : ByteOrder) (fields : List Field) (stored : Bytes) :
    Bytes :=
  (cut fields stored).flatMap fun (field, chunk) =>
    if field.name ∈ ["addr", "size"] then order.extend 8 chunk else chunk

variable {order : ByteOrder} {fields : List Field} {values : List Value}

/-- The chunks of values that fill a table are their own encodings. -/
theorem cut_flatMap_encode
    (hwidths : (values.map Value.kind).map Kind.width =
      fields.map Field.width) :
    cut fields (values.flatMap (Value.encode order)) =
      fields.zip (values.map (Value.encode order)) := by
  induction fields generalizing values with
  | nil => rfl
  | cons field fields ih =>
      cases values with
      | nil => cases hwidths
      | cons value values =>
          simp only [List.map_cons, List.cons.injEq] at hwidths
          have hlength : (value.encode order).length = field.width :=
            (value.length_encode order).trans hwidths.1
          rw [List.flatMap_cons, cut, ← hlength, List.take_left,
            List.drop_left, ih hwidths.2]
          rfl

theorem flatMap_encode_other
    (hwidths : (values.map Value.kind).map Kind.width =
      fields.map Field.width) :
    values.flatMap (Value.encode order.other) =
      reverseNumbers fields (values.flatMap (Value.encode order)) := by
  rw [reverseNumbers, cut_flatMap_encode hwidths]
  induction fields generalizing values with
  | nil =>
      simp only [List.map_nil, List.map_eq_nil_iff] at hwidths
      rw [hwidths]
      rfl
  | cons field fields ih =>
      cases values with
      | nil => cases hwidths
      | cons value values =>
          simp only [List.map_cons, List.cons.injEq] at hwidths
          rw [List.flatMap_cons, List.map_cons, List.zip_cons_cons,
            List.flatMap_cons, ih hwidths.2, value.encode_other,
            hwidths.1]

theorem read_other {kinds : List Kind} {bytes : Bytes}
    (hread : read order fields kinds bytes = .ok values) :
    read order.other fields kinds bytes =
      .ok (values.map Value.swapped) := by
  induction kinds generalizing fields bytes values with
  | nil =>
      simp only [read, Except.ok.injEq] at hread
      subst hread
      simp [read]
  | cons kind kinds ih =>
      obtain ⟨field, rest, tail, rfl, hwidth, hlength, htail, rfl⟩ :=
        exists_of_read_cons hread
      have hstored : (bytes.take kind.width).length = kind.width := by
        rw [List.length_take]
        exact min_eq_left hlength
      rw [read_cons hwidth hlength (ih htail),
        Value.decode_other order hstored]
      rfl

end Field

/-! ## Records -/

namespace Format

variable {Record : Type} {format : Format Record}
  {swapped : Record → Record}

/-- The other order reverses the numbers of an encoded record, and swaps the
bytes of the numbers of a decoded one.  The names are the two fields of 16
bytes. -/
structure Turns (format : Format Record) (swapped : Record → Record) :
    Prop where
  names : (format.fields.filter (·.width = 16)).map Field.name =
    ["sectname", "segname"]
  encode_other : ∀ order record, ∃ stored,
    format.encode order record = .ok stored ∧
      format.encode order.other record =
        .ok (Field.reverseNumbers format.fields stored)
  decode_other : ∀ order bytes, format.size ≤ bytes.length →
    ∃ record, format.decodeFront? order bytes = .ok (some record) ∧
      format.decodeFront? order.other bytes = .ok (some (swapped record))

theorem InStep.bytes_other (hstep : format.InStep) (order : ByteOrder)
    (record : Record) :
    format.bytes order.other record =
      Field.reverseNumbers format.fields (format.bytes order record) := by
  apply Field.flatMap_encode_other
  rw [format.map_kind_toValues, hstep.widths]

theorem decode_other
    (hswapped : ∀ record, format.toValues (swapped record) =
      (format.toValues record).map Value.swapped)
    {order : ByteOrder} {bytes : Bytes} {record : Record}
    (hdecode : format.decode order bytes = .ok record) :
    format.decode order.other bytes = .ok (swapped record) := by
  have hread := Field.read_other (read_of_decode hdecode)
  rw [← hswapped] at hread
  exact decode_of_read hread

theorem InStep.turns (hstep : format.InStep)
    (hnames : (format.fields.filter (·.width = 16)).map Field.name =
      ["sectname", "segname"])
    (hswapped : ∀ record, format.toValues (swapped record) =
      (format.toValues record).map Value.swapped) :
    format.Turns swapped := by
  refine ⟨hnames, ?_, ?_⟩
  · intro order record
    refine ⟨_, hstep.encode_eq_ok order record, ?_⟩
    rw [hstep.encode_eq_ok, hstep.bytes_other]
  · intro order bytes hlength
    have htake : format.size ≤ (bytes.take format.size).length := by
      rw [List.length_take]
      exact le_min le_rfl hlength
    obtain ⟨record, hdecode⟩ := hstep.exists_decode order htake
    refine ⟨record, ?_, ?_⟩
    · rw [decodeFront?_of_le order hlength, hdecode]
      rfl
    · rw [decodeFront?_of_le order.other hlength,
        decode_other hswapped hdecode]
      rfl

end Format

/-! ## Section headers -/

open ByteOrder in
def NarrowSection.swapped (header : NarrowSection) : NarrowSection where
  sectionName := header.sectionName
  segmentName := header.segmentName
  address := swap32 header.address
  size := swap32 header.size
  offset := swap32 header.offset
  alignment := swap32 header.alignment
  relocationOffset := swap32 header.relocationOffset
  relocationCount := swap32 header.relocationCount
  flags := swap32 header.flags
  reserved1 := swap32 header.reserved1
  reserved2 := swap32 header.reserved2

theorem NarrowSection.toValues_swapped (header : NarrowSection) :
    format.toValues header.swapped =
      (format.toValues header).map Value.swapped := by
  cases header
  rfl

open ByteOrder in
def WideSection.swapped (header : WideSection) : WideSection where
  sectionName := header.sectionName
  segmentName := header.segmentName
  address := swap64 header.address
  size := swap64 header.size
  offset := swap32 header.offset
  alignment := swap32 header.alignment
  relocationOffset := swap32 header.relocationOffset
  relocationCount := swap32 header.relocationCount
  flags := swap32 header.flags
  reserved1 := swap32 header.reserved1
  reserved2 := swap32 header.reserved2
  reserved3 := swap32 header.reserved3

theorem WideSection.toValues_swapped (header : WideSection) :
    format.toValues header.swapped =
      (format.toValues header).map Value.swapped := by
  cases header
  rfl

/-- The 64-bit form of a section header, with any word in the place that the
32-bit form lacks. -/
def NarrowSection.widened (header : NarrowSection) (reserved3 : UInt32) :
    WideSection where
  sectionName := header.sectionName
  segmentName := header.segmentName
  address := header.address.toUInt64
  size := header.size.toUInt64
  offset := header.offset
  alignment := header.alignment
  relocationOffset := header.relocationOffset
  relocationCount := header.relocationCount
  flags := header.flags
  reserved1 := header.reserved1
  reserved2 := header.reserved2
  reserved3 := reserved3

theorem NarrowSection.bytes_widened (header : NarrowSection)
    (reserved3 : UInt32) (order : ByteOrder) :
    WideSection.format.bytes order (header.widened reserved3) =
      Field.extendRange order format.fields (format.bytes order header) ++
        order.ofWord32 reserved3 := by
  have hwidths : ((format.toValues header).map Value.kind).map Kind.width =
      format.fields.map Field.width := rfl
  rw [Field.extendRange, Format.bytes, Format.bytes,
    Field.cut_flatMap_encode hwidths]
  simp [format, WideSection.format, widened, Value.encode,
    ByteOrder.ofWord64_toUInt64]

namespace Section

/-- The accessors give the same answers for both. -/
structure ReportsAlike (first second : Section) : Prop where
  sectionName : first.sectionName = second.sectionName
  segmentName : first.segmentName = second.segmentName
  name : first.name = second.name
  address : first.address = second.address
  size : first.size = second.size
  offset : first.offset = second.offset
  alignmentExponent : first.alignmentExponent = second.alignmentExponent
  alignment : first.alignment = second.alignment
  relocationOffset : first.relocationOffset = second.relocationOffset
  relocationCount : first.relocationCount = second.relocationCount
  flags : first.flags = second.flags
  type : first.type = second.type
  attributes : first.attributes = second.attributes
  isZeroFill : first.isZeroFill = second.isZeroFill
  reserved1 : first.reserved1 = second.reserved1
  reserved2 : first.reserved2 = second.reserved2

theorem reportsAlike_widened (header : NarrowSection) (reserved3 : UInt32) :
    ReportsAlike (narrow header) (wide (header.widened reserved3)) := by
  have haddress : header.address.toNat = header.address.toUInt64.toNat :=
    (UInt32.toNat_toUInt64 _).symm
  have hsize : header.size.toNat = header.size.toUInt64.toNat :=
    (UInt32.toNat_toUInt64 _).symm
  exact {
    sectionName := rfl
    segmentName := rfl
    name := rfl
    address := haddress
    size := hsize
    offset := rfl
    alignmentExponent := rfl
    alignment := rfl
    relocationOffset := rfl
    relocationCount := rfl
    flags := rfl
    type := rfl
    attributes := rfl
    isZeroFill := rfl
    reserved1 := rfl
    reserved2 := rfl }

/-- The other byte order reverses the numbers of a section header and no more.
The 64-bit form extends the address and the size in place and has one word
more, and it reports the same. -/
theorem encodings_correspond :
    NarrowSection.format.Turns NarrowSection.swapped ∧
    WideSection.format.Turns WideSection.swapped ∧
    ∀ (header : NarrowSection) (reserved3 : UInt32),
      (∀ order, ∃ stored,
        NarrowSection.format.encode order header = .ok stored ∧
          WideSection.format.encode order (header.widened reserved3) =
            .ok (Field.extendRange order NarrowSection.format.fields stored ++
              order.ofWord32 reserved3)) ∧
      ReportsAlike (narrow header) (wide (header.widened reserved3)) := by
  refine ⟨
    NarrowSection.inStep_format.turns rfl NarrowSection.toValues_swapped,
    WideSection.inStep_format.turns rfl WideSection.toValues_swapped, ?_⟩
  intro header reserved3
  refine ⟨fun order => ?_, reportsAlike_widened header reserved3⟩
  refine ⟨_, NarrowSection.inStep_format.encode_eq_ok order header, ?_⟩
  rw [WideSection.inStep_format.encode_eq_ok, header.bytes_widened]

/-- More bytes than a 32-bit section header takes, each of which holds its own
offset. -/
def offsets : Bytes :=
  (List.range 70).map UInt8.ofNat

theorem encodings_correspond_offsets :
    NarrowSection.format.size ≤ offsets.length ∧
      ∃ header,
        NarrowSection.format.decodeFront? .little offsets =
          .ok (some header) ∧
        NarrowSection.format.decodeFront? .big offsets =
          .ok (some header.swapped) ∧
        header.address = 0x23222120 ∧
        header.swapped.address = 0x20212223 := by
  have hlength : NarrowSection.format.size ≤ offsets.length := by
    decide +kernel
  obtain ⟨hnarrow, _⟩ := encodings_correspond
  obtain ⟨header, hlittle, hbig⟩ :=
    hnarrow.decode_other .little offsets hlength
  have hfield : (NarrowSection.format.decodeFront? .little offsets).map
      (·.map NarrowSection.address) = .ok (some 0x23222120) := by
    decide +kernel
  rw [hlittle] at hfield
  have haddress : header.address = 0x23222120 := by
    simpa [Except.map] using hfield
  have hswap : ByteOrder.swap32 0x23222120 = 0x20212223 := by decide
  refine ⟨hlength, header, hlittle, hbig, haddress, ?_⟩
  simp only [NarrowSection.swapped, haddress, hswap]

end Section

end MachO
