import MachO.Section.Codec
import MachO.Segment.Codec

/-!
# Records in step with their tables

Reading and writing through a table of fields fail exactly when the values
leave the widths of the table, or when the bytes run out.  The four record
formats never leave theirs: a record is always written, and enough bytes are
always a record.  What stands behind a record has no influence on it.
-/

namespace MachO

theorem Value.kind_eq_word32_iff (value : Value) :
    value.kind = .word32 ↔ ∃ word, value = .word32 word := by
  cases value <;> simp [kind]

theorem Value.kind_eq_word64_iff (value : Value) :
    value.kind = .word64 ↔ ∃ word, value = .word64 word := by
  cases value <;> simp [kind]

theorem Value.kind_eq_name_iff (value : Value) :
    value.kind = .name ↔ ∃ contents, value = .name contents := by
  cases value <;> simp [kind]

namespace Field

theorem map_kind_of_read {order : ByteOrder} {fields : List Field}
    {kinds : List Kind} {bytes : Bytes} {values : List Value}
    (hread : read order fields kinds bytes = .ok values) :
    values.map Value.kind = kinds := by
  induction kinds generalizing fields bytes values with
  | nil =>
      simp only [read, Except.ok.injEq] at hread
      subst hread
      rfl
  | cons kind kinds ih =>
      obtain ⟨field, rest, tail, rfl, _, _, htail, rfl⟩ :=
        exists_of_read_cons hread
      rw [List.map_cons, Value.kind_decode, ih htail]

/-- Values are read when their widths are those of the table, as far as they
go, and the bytes suffice. -/
theorem exists_read (order : ByteOrder) {fields : List Field}
    {kinds : List Kind} {bytes : Bytes}
    (hwidths : kinds.map Kind.width <+: fields.map Field.width)
    (hlength : total (kinds.map Kind.width) ≤ bytes.length) :
    ∃ values, read order fields kinds bytes = .ok values := by
  induction kinds generalizing fields bytes with
  | nil => exact ⟨[], by simp [read]⟩
  | cons kind kinds ih =>
      cases fields with
      | nil => simp at hwidths
      | cons field fields =>
          simp only [List.map_cons, List.cons_prefix_cons] at hwidths
          simp only [List.map_cons, total] at hlength
          have hrest : total (kinds.map Kind.width) ≤
              (bytes.drop kind.width).length := by
            rw [List.length_drop]
            omega
          obtain ⟨tail, htail⟩ := ih hwidths.2 hrest
          exact ⟨_, read_cons hwidths.1.symm (by omega) htail⟩

theorem encode_eq_ok {order : ByteOrder} {fields : List Field}
    {values : List Value}
    (hwidths : (values.map Value.kind).map Kind.width <+:
      fields.map Field.width) :
    encode order fields values = .ok (values.flatMap (Value.encode order)) := by
  induction values generalizing fields with
  | nil => simp [encode]
  | cons value values ih =>
      cases fields with
      | nil => simp at hwidths
      | cons field fields =>
          simp only [List.map_cons, List.cons_prefix_cons] at hwidths
          exact encode_cons hwidths.1.symm (ih hwidths.2)

theorem length_flatMap_encode (order : ByteOrder) (values : List Value) :
    (values.flatMap (Value.encode order)).length =
      total ((values.map Value.kind).map Kind.width) := by
  induction values with
  | nil => rfl
  | cons value values ih =>
      rw [List.flatMap_cons, List.length_append, Value.length_encode, ih]
      rfl

end Field

namespace Format

variable {Record : Type}

/-- The values of a record follow the table, and any values of their kinds
are a record. -/
structure InStep (format : Format Record) : Prop where
  widths : format.kinds.map Kind.width = format.fields.map Field.width
  complete : ∀ values, values.map Value.kind = format.kinds →
    ∃ record, format.ofValues? values = some record

def bytes (format : Format Record) (order : ByteOrder) (record : Record) :
    Bytes :=
  (format.toValues record).flatMap (Value.encode order)

variable {format : Format Record}

theorem InStep.total_widths (hstep : format.InStep) :
    Field.total (format.kinds.map Kind.width) = format.size := by
  rw [hstep.widths, size, Field.size]

theorem InStep.prefix_widths (hstep : format.InStep) :
    format.kinds.map Kind.width <+: format.fields.map Field.width :=
  hstep.widths ▸ List.prefix_rfl

theorem InStep.encode_eq_ok (hstep : format.InStep) (order : ByteOrder)
    (record : Record) :
    format.encode order record = .ok (format.bytes order record) := by
  apply Field.encode_eq_ok
  rw [format.map_kind_toValues]
  exact hstep.prefix_widths

theorem InStep.length_bytes (hstep : format.InStep) (order : ByteOrder)
    (record : Record) :
    (format.bytes order record).length = format.size := by
  rw [← hstep.total_widths, ← format.map_kind_toValues record, bytes]
  exact Field.length_flatMap_encode order (format.toValues record)

theorem InStep.decode_bytes (hstep : format.InStep) (order : ByteOrder)
    (record : Record) (rest : Bytes) :
    format.decode order (format.bytes order record ++ rest) = .ok record :=
  decode_encode (hstep.encode_eq_ok order record) rest

theorem InStep.exists_decode (hstep : format.InStep) (order : ByteOrder)
    {stored : Bytes} (hlength : format.size ≤ stored.length) :
    ∃ record, format.decode order stored = .ok record := by
  obtain ⟨values, hread⟩ := Field.exists_read order hstep.prefix_widths
    (by rw [hstep.total_widths]; exact hlength)
  obtain ⟨record, hrecord⟩ :=
    hstep.complete values (Field.map_kind_of_read hread)
  exact ⟨record, by simp only [decode, hread, hrecord]⟩

/-- Only the bytes of the record itself count. -/
theorem InStep.decode_append (hstep : format.InStep) (order : ByteOrder)
    {stored : Bytes} (hlength : format.size ≤ stored.length) (rest : Bytes) :
    format.decode order (stored ++ rest) = format.decode order stored := by
  obtain ⟨record, hrecord⟩ := hstep.exists_decode order hlength
  have hencode := encode_decode hrecord
  have hread := decode_encode hencode
    (stored.drop (Field.total (format.kinds.map Kind.width)) ++ rest)
  rw [← List.append_assoc, List.take_append_drop] at hread
  rw [hread, hrecord]

end Format

theorem NarrowSection.inStep_format : NarrowSection.format.InStep where
  widths := rfl
  complete := by
    intro values hkinds
    simp only [format, List.map_eq_cons_iff, List.map_eq_nil_iff,
      Value.kind_eq_name_iff, Value.kind_eq_word32_iff] at hkinds
    obtain ⟨_, _, rfl, ⟨_, rfl⟩, _, _, rfl, ⟨_, rfl⟩, _, _, rfl, ⟨_, rfl⟩,
      _, _, rfl, ⟨_, rfl⟩, _, _, rfl, ⟨_, rfl⟩, _, _, rfl, ⟨_, rfl⟩,
      _, _, rfl, ⟨_, rfl⟩, _, _, rfl, ⟨_, rfl⟩, _, _, rfl, ⟨_, rfl⟩,
      _, _, rfl, ⟨_, rfl⟩, _, _, rfl, ⟨_, rfl⟩, rfl⟩ := hkinds
    exact ⟨_, rfl⟩

theorem WideSection.inStep_format : WideSection.format.InStep where
  widths := rfl
  complete := by
    intro values hkinds
    simp only [format, List.map_eq_cons_iff, List.map_eq_nil_iff,
      Value.kind_eq_name_iff, Value.kind_eq_word32_iff,
      Value.kind_eq_word64_iff] at hkinds
    obtain ⟨_, _, rfl, ⟨_, rfl⟩, _, _, rfl, ⟨_, rfl⟩, _, _, rfl, ⟨_, rfl⟩,
      _, _, rfl, ⟨_, rfl⟩, _, _, rfl, ⟨_, rfl⟩, _, _, rfl, ⟨_, rfl⟩,
      _, _, rfl, ⟨_, rfl⟩, _, _, rfl, ⟨_, rfl⟩, _, _, rfl, ⟨_, rfl⟩,
      _, _, rfl, ⟨_, rfl⟩, _, _, rfl, ⟨_, rfl⟩, _, _, rfl, ⟨_, rfl⟩, rfl⟩ := hkinds
    exact ⟨_, rfl⟩

theorem NarrowCommand.inStep_format : NarrowCommand.format.InStep where
  widths := rfl
  complete := by
    intro values hkinds
    simp only [format, List.map_eq_cons_iff, List.map_eq_nil_iff,
      Value.kind_eq_name_iff, Value.kind_eq_word32_iff] at hkinds
    obtain ⟨_, _, rfl, ⟨_, rfl⟩, _, _, rfl, ⟨_, rfl⟩, _, _, rfl, ⟨_, rfl⟩,
      _, _, rfl, ⟨_, rfl⟩, _, _, rfl, ⟨_, rfl⟩, _, _, rfl, ⟨_, rfl⟩,
      _, _, rfl, ⟨_, rfl⟩, _, _, rfl, ⟨_, rfl⟩, _, _, rfl, ⟨_, rfl⟩,
      _, _, rfl, ⟨_, rfl⟩, _, _, rfl, ⟨_, rfl⟩, rfl⟩ := hkinds
    exact ⟨_, rfl⟩

theorem WideCommand.inStep_format : WideCommand.format.InStep where
  widths := rfl
  complete := by
    intro values hkinds
    simp only [format, List.map_eq_cons_iff, List.map_eq_nil_iff,
      Value.kind_eq_name_iff, Value.kind_eq_word32_iff,
      Value.kind_eq_word64_iff] at hkinds
    obtain ⟨_, _, rfl, ⟨_, rfl⟩, _, _, rfl, ⟨_, rfl⟩, _, _, rfl, ⟨_, rfl⟩,
      _, _, rfl, ⟨_, rfl⟩, _, _, rfl, ⟨_, rfl⟩, _, _, rfl, ⟨_, rfl⟩,
      _, _, rfl, ⟨_, rfl⟩, _, _, rfl, ⟨_, rfl⟩, _, _, rfl, ⟨_, rfl⟩,
      _, _, rfl, ⟨_, rfl⟩, _, _, rfl, ⟨_, rfl⟩, rfl⟩ := hkinds
    exact ⟨_, rfl⟩

namespace Section

variable {order : ByteOrder} {stored : Bytes} {width : Width}

def bytes (order : ByteOrder) : Section → Bytes
  | narrow header => NarrowSection.format.bytes order header
  | wide header => WideSection.format.bytes order header

theorem encode_eq_ok (order : ByteOrder) (s : Section) :
    s.encode order = .ok (s.bytes order) := by
  cases s with
  | narrow header =>
      exact NarrowSection.inStep_format.encode_eq_ok order header
  | wide header => exact WideSection.inStep_format.encode_eq_ok order header

theorem length_bytes (order : ByteOrder) (s : Section) :
    (s.bytes order).length = s.width.sectionHeaderSize := by
  cases s with
  | narrow header =>
      exact NarrowSection.inStep_format.length_bytes order header
  | wide header => exact WideSection.inStep_format.length_bytes order header

theorem decode_bytes (order : ByteOrder) (s : Section) (rest : Bytes) :
    decode order (s.bytes order ++ rest) s.width = .ok s := by
  cases s with
  | narrow header =>
      have hdecode :=
        NarrowSection.inStep_format.decode_bytes order header rest
      simp only [decode, bytes, width, hdecode, Except.map]
  | wide header =>
      have hdecode := WideSection.inStep_format.decode_bytes order header rest
      simp only [decode, bytes, width, hdecode, Except.map]

/-- Enough bytes are always a section header. -/
theorem exists_decode (order : ByteOrder)
    (hlength : width.sectionHeaderSize ≤ stored.length) :
    ∃ s, decode order stored width = .ok s := by
  cases width with
  | bits32 =>
      obtain ⟨header, hheader⟩ :=
        NarrowSection.inStep_format.exists_decode order hlength
      exact ⟨narrow header, by simp only [decode, hheader, Except.map]⟩
  | bits64 =>
      obtain ⟨header, hheader⟩ :=
        WideSection.inStep_format.exists_decode order hlength
      exact ⟨wide header, by simp only [decode, hheader, Except.map]⟩

end Section

namespace Segment

variable {stored : Bytes} {width : Width}

theorem exists_decode (order : ByteOrder) (position : Nat)
    (hlength : width.segmentHeaderSize ≤ stored.length) :
    ∃ segment, decode order position stored width = .ok segment := by
  cases width with
  | bits32 =>
      obtain ⟨command, hcommand⟩ :=
        NarrowCommand.inStep_format.exists_decode order hlength
      exact ⟨ofNarrow position command, by
        simp only [decode, hcommand, Except.map]⟩
  | bits64 =>
      obtain ⟨command, hcommand⟩ :=
        WideCommand.inStep_format.exists_decode order hlength
      exact ⟨ofWide position command, by
        simp only [decode, hcommand, Except.map]⟩

theorem decode_append (order : ByteOrder) (position : Nat)
    (hlength : width.segmentHeaderSize ≤ stored.length) (rest : Bytes) :
    decode order position (stored ++ rest) width =
      decode order position stored width := by
  cases width with
  | bits32 =>
      have hdecode :=
        NarrowCommand.inStep_format.decode_append order hlength rest
      simp only [decode, hdecode]
  | bits64 =>
      have hdecode :=
        WideCommand.inStep_format.decode_append order hlength rest
      simp only [decode, hdecode]

/-- A segment is in the first bytes, however many more there are. -/
theorem decode_take (order : ByteOrder) (position : Nat) {count : Nat}
    (hcount : width.segmentHeaderSize ≤ count)
    (hlength : width.segmentHeaderSize ≤ stored.length) :
    decode order position (stored.take count) width =
      decode order position stored width := by
  have hfront : width.segmentHeaderSize ≤ (stored.take count).length := by
    rw [List.length_take]
    exact Nat.le_min.mpr ⟨hcount, hlength⟩
  have hdecode := decode_append order position hfront (stored.drop count)
  rw [List.take_append_drop] at hdecode
  exact hdecode.symm

theorem place_of_decode {order : ByteOrder} {position : Nat}
    {segment : Segment}
    (hdecode : decode order position stored width = .ok segment) :
    segment.position = position ∧ segment.width = width := by
  cases width with
  | bits32 =>
      cases hcommand : NarrowCommand.format.decode order stored with
      | error mistake => simp [decode, hcommand, Except.map] at hdecode
      | ok command =>
          simp only [decode, hcommand, Except.map, Except.ok.injEq] at hdecode
          subst hdecode
          exact ⟨rfl, rfl⟩
  | bits64 =>
      cases hcommand : WideCommand.format.decode order stored with
      | error mistake => simp [decode, hcommand, Except.map] at hdecode
      | ok command =>
          simp only [decode, hcommand, Except.map, Except.ok.injEq] at hdecode
          subst hdecode
          exact ⟨rfl, rfl⟩

end Segment

end MachO
