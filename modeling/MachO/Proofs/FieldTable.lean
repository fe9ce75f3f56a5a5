import MachO.Proofs.Codec
import Mathlib.Tactic

/-!
# Values in step with a table of fields

A value that is read or written takes the next field of the table, so the
widths of all values together must be the front of the widths of the table.
Reading also takes the next bytes, and the widths must not come to more than
there are.  Nothing else can go wrong.

From this it follows where a reader or a writer falls out of step, and that a
reader gets back what a writer appended.  The records of a format fill their
whole table.  They correspond one to one to the byte strings of its size.
-/

namespace MachO

namespace Field

variable {order : ByteOrder} {fields : List Field} {values : List Value}
variable {kinds : List Kind} {bytes : Bytes}

theorem total_eq_sum (widths : List Nat) : total widths = widths.sum := by
  induction widths with
  | nil => rfl
  | cons width widths ih => rw [total, List.sum_cons, ih]

/-! ## When values keep in step -/

theorem prefix_of_encode (hencode : encode order fields values = .ok bytes) :
    (values.map Value.kind).map Kind.width <+: fields.map Field.width := by
  induction values generalizing fields bytes with
  | nil => exact List.nil_prefix
  | cons value values ih =>
      obtain ⟨field, rest, tail, rfl, hwidth, htail, _⟩ :=
        exists_of_encode_cons hencode
      simp only [List.map_cons, List.cons_prefix_cons]
      exact ⟨hwidth.symm, ih htail⟩

theorem exists_encode_iff :
    (∃ bytes, encode order fields values = .ok bytes) ↔
      (values.map Value.kind).map Kind.width <+: fields.map Field.width := by
  constructor
  · rintro ⟨bytes, hencode⟩
    exact prefix_of_encode hencode
  · intro hwidths
    exact ⟨_, encode_eq_ok hwidths⟩

theorem exists_read_iff :
    (∃ values, read order fields kinds bytes = .ok values) ↔
      kinds.map Kind.width <+: fields.map Field.width ∧
        (kinds.map Kind.width).sum ≤ bytes.length := by
  rw [← total_eq_sum]
  constructor
  · -- What was read can be written, so its widths are in step, and it was
    -- written as the front of the bytes, so they were enough.
    rintro ⟨values, hread⟩
    have hkinds := map_kind_of_read hread
    have hencode := encode_read hread
    have hwidths := prefix_of_encode hencode
    have hlength := length_flatMap_encode order values
    rw [encode_eq_ok hwidths, Except.ok.injEq] at hencode
    rw [hencode, hkinds, List.length_take] at hlength
    rw [hkinds] at hwidths
    exact ⟨hwidths, by omega⟩
  · rintro ⟨hwidths, hlength⟩
    exact exists_read order hwidths hlength

/-! ## Where they fall out of step -/

theorem exists_error_iff {α : Type} (result : Except Defect α) :
    (∃ mistake, result = .error mistake) ↔
      ¬ ∃ value, result = .ok value := by
  cases result <;> simp

theorem not_prefix_iff :
    ¬ kinds.map Kind.width <+: fields.map Field.width ↔
      ∃ (k : Nat) (kind : Kind), kinds[k]? = some kind ∧
        (fields[k]? = none ∨
          ∃ field : Field, fields[k]? = some field ∧
            field.width ≠ kind.width) := by
  rw [List.prefix_iff_getElem?]
  constructor
  · intro hnot
    push Not at hnot
    obtain ⟨k, hk, hdiffer⟩ := hnot
    rw [List.length_map] at hk
    refine ⟨k, kinds[k], List.getElem?_eq_getElem hk, ?_⟩
    cases hfield : fields[k]? with
    | none => exact Or.inl rfl
    | some field =>
        refine Or.inr ⟨field, rfl, ?_⟩
        simpa [hfield] using hdiffer
  · rintro ⟨k, kind, hkind, hfield⟩ hall
    obtain ⟨hk, rfl⟩ := List.getElem?_eq_some_iff.mp hkind
    have hsame := hall k (by rwa [List.length_map])
    rcases hfield with hnone | ⟨field, hsome, hdiffer⟩
    · simp [hnone] at hsame
    · apply hdiffer
      simpa [hsome] using hsame

theorem sum_take_le (kinds : List Kind) (k : Nat) :
    ((kinds.take k).map Kind.width).sum ≤ (kinds.map Kind.width).sum := by
  have hfront := (List.take_prefix k kinds).map Kind.width
  exact hfront.sublist.sum_le_sum fun _ _ => Nat.zero_le _

/-- A writer fails when there are more values than fields, or a value has not
the width of its field. -/
theorem encode_fails_iff (order : ByteOrder) :
    (∃ mistake, encode order fields values = .error mistake) ↔
      fields.length < values.length ∨
        ∃ (k : Nat) (field : Field) (value : Value),
          fields[k]? = some field ∧ values[k]? = some value ∧
            field.width ≠ value.kind.width := by
  rw [exists_error_iff, exists_encode_iff, not_prefix_iff]
  constructor
  · rintro ⟨k, kind, hkind, hfield⟩
    rw [List.getElem?_map, Option.map_eq_some_iff] at hkind
    obtain ⟨value, hvalue, rfl⟩ := hkind
    rcases hfield with hnone | ⟨field, hsome, hdiffer⟩
    · have hk := (List.getElem?_eq_some_iff.mp hvalue).1
      rw [List.getElem?_eq_none_iff] at hnone
      exact Or.inl (by omega)
    · exact Or.inr ⟨k, field, value, hsome, hvalue, hdiffer⟩
  · rintro (hmore | ⟨k, field, value, hfield, hvalue, hdiffer⟩)
    · refine ⟨fields.length, values[fields.length].kind, ?_, Or.inl ?_⟩
      · rw [List.getElem?_map, List.getElem?_eq_getElem hmore]
        rfl
      · exact List.getElem?_eq_none le_rfl
    · refine ⟨k, value.kind, ?_, Or.inr ⟨field, hfield, hdiffer⟩⟩
      rw [List.getElem?_map, hvalue]
      rfl

/-- A reader fails when there is a value without a field, or one that has not
the width of its field, or one behind whose end the bytes have run out. -/
theorem read_fails_iff :
    (∃ mistake, read order fields kinds bytes = .error mistake) ↔
      ∃ (k : Nat) (kind : Kind), kinds[k]? = some kind ∧
        (fields[k]? = none ∨
          (∃ field : Field, fields[k]? = some field ∧
            field.width ≠ kind.width) ∨
          bytes.length < ((kinds.take (k + 1)).map Kind.width).sum) := by
  rw [exists_error_iff, exists_read_iff, not_and_or, not_prefix_iff, not_le]
  constructor
  · rintro (⟨k, kind, hkind, hfield⟩ | hshort)
    · refine ⟨k, kind, hkind, ?_⟩
      exact hfield.imp id Or.inl
    · -- The bytes have run out by the end of the last value.
      have hpos : kinds.length ≠ 0 := by
        intro hzero
        rw [List.length_eq_zero_iff.mp hzero] at hshort
        simp at hshort
      have hlast : kinds.length - 1 < kinds.length := by omega
      have hall : kinds.length ≤ kinds.length - 1 + 1 := by omega
      refine ⟨kinds.length - 1, kinds[kinds.length - 1],
        List.getElem?_eq_getElem hlast, Or.inr (Or.inr ?_)⟩
      rwa [List.take_of_length_le hall]
  · rintro ⟨k, kind, hkind, hnone | hdiffer | hshort⟩
    · exact Or.inl ⟨k, kind, hkind, Or.inl hnone⟩
    · exact Or.inl ⟨k, kind, hkind, Or.inr hdiffer⟩
    · have hmore := sum_take_le kinds (k + 1)
      exact Or.inr (by omega)

/-- A value that is written takes as many bytes as its field. -/
theorem length_of_encode (hencode : encode order fields values = .ok bytes) :
    bytes.length = ((fields.take values.length).map Field.width).sum := by
  have hwidths := prefix_of_encode hencode
  have hlength := length_flatMap_encode order values
  rw [encode_eq_ok hwidths, Except.ok.injEq] at hencode
  rw [List.prefix_iff_eq_take, List.length_map, List.length_map,
    ← List.map_take] at hwidths
  rw [← hencode, hlength, total_eq_sum, hwidths]

/-- A writer fails exactly when it falls out of step, and otherwise appends
bytes of the widths of the fields that it used; a reader fails exactly when it
falls out of step or short of bytes, and it reads back what was appended. -/
theorem write_and_read_in_step (order : ByteOrder) (fields : List Field) :
    (∀ values start,
      ((∃ mistake, write order fields values start = .error mistake) ↔
        fields.length < values.length ∨
          ∃ (k : Nat) (field : Field) (value : Value),
            fields[k]? = some field ∧ values[k]? = some value ∧
              field.width ≠ value.kind.width) ∧
      ∀ written, write order fields values start = .ok written →
        ∃ appended, written = start ++ appended ∧
          appended.length =
            ((fields.take values.length).map Field.width).sum ∧
          ∀ rest, read order fields (values.map Value.kind)
            (appended ++ rest) = .ok values) ∧
    ∀ kinds bytes,
      (∃ mistake, read order fields kinds bytes = .error mistake) ↔
        ∃ (k : Nat) (kind : Kind), kinds[k]? = some kind ∧
          (fields[k]? = none ∨
            (∃ field : Field, fields[k]? = some field ∧
              field.width ≠ kind.width) ∨
            bytes.length < ((kinds.take (k + 1)).map Kind.width).sum) := by
  constructor
  · intro values start
    rw [← encode_fails_iff order]
    cases hencode : encode order fields values with
    | error mistake => simp [write, hencode, Except.map]
    | ok appended =>
        constructor
        · simp [write, hencode, Except.map]
        · intro written hwrite
          simp only [write, hencode, Except.map, Except.ok.injEq] at hwrite
          exact ⟨appended, hwrite.symm, length_of_encode hencode,
            read_encode hencode⟩
  · intro kinds bytes
    exact read_fails_iff

/-- A table of a word and a double word. -/
def pair : List Field :=
  [⟨"a", 4⟩, ⟨"b", 8⟩]

theorem write_and_read_in_step_pair :
    (∃ appended,
      write .big pair [.word32 7, .word64 9] [1] = .ok ([1] ++ appended) ∧
        appended.length = 12 ∧
          read .big pair [.word32, .word64] (appended ++ [5]) =
            .ok [.word32 7, .word64 9]) ∧
      ∃ mistake, read .big pair [.word32, .word64] (List.replicate 11 0) =
        .error mistake := by
  have hwritten : write .big pair [.word32 7, .word64 9] [1] =
      .ok [1, 0, 0, 0, 7, 0, 0, 0, 0, 0, 0, 0, 9] := by
    decide
  obtain ⟨hwrite, hread⟩ := write_and_read_in_step .big pair
  constructor
  · obtain ⟨appended, hsplit, hlength, hback⟩ := (hwrite _ _).2 _ hwritten
    rw [hsplit] at hwritten
    exact ⟨appended, hwritten, hlength, hback [5]⟩
  · -- The double word is behind the eleventh byte.
    apply (hread _ _).mpr
    exact ⟨1, .word64, rfl, Or.inr (Or.inr (by decide))⟩

end Field

namespace Format

variable {Record : Type} {format : Format Record}

/-- The records of a format and the byte strings of a size correspond one to
one, and of more bytes only the first ones count. -/
structure OneToOne (format : Format Record) (order : ByteOrder)
    (size : Nat) : Prop where
  readsBack : ∀ record, ∃ stored,
    format.encode order record = .ok stored ∧ stored.length = size ∧
      ∀ rest, format.decodeFront? order (stored ++ rest) = .ok (some record)
  none_iff : ∀ bytes,
    format.decodeFront? order bytes = .ok none ↔ bytes.length < size
  enough : ∀ bytes, size ≤ bytes.length →
    ∃ record, format.decodeFront? order bytes = .ok (some record)
  kept : ∀ bytes record,
    format.decodeFront? order bytes = .ok (some record) →
      format.encode order record = .ok (bytes.take size)

theorem decodeFront?_of_lt {order : ByteOrder} {bytes : Bytes}
    (hshort : bytes.length < format.size) :
    format.decodeFront? order bytes = .ok none := by
  rw [decodeFront?, if_pos hshort]

theorem decodeFront?_of_le (order : ByteOrder) {bytes : Bytes}
    (hlength : format.size ≤ bytes.length) :
    format.decodeFront? order bytes =
      (format.decode order (bytes.take format.size)).map some := by
  rw [decodeFront?, if_neg (not_lt.mpr hlength)]

theorem decodeFront?_of_length (order : ByteOrder) {stored : Bytes}
    (hlength : stored.length = format.size) :
    format.decodeFront? order stored =
      (format.decode order stored).map some := by
  rw [decodeFront?_of_le order hlength.ge, List.take_of_length_le hlength.le]

theorem InStep.exists_decodeFront? (hstep : format.InStep) (order : ByteOrder)
    {bytes : Bytes} (hlength : format.size ≤ bytes.length) :
    ∃ record, format.decodeFront? order bytes = .ok (some record) ∧
      format.encode order record = .ok (bytes.take format.size) := by
  have htake : (bytes.take format.size).length = format.size := by
    rw [List.length_take]
    exact min_eq_left hlength
  obtain ⟨record, hdecode⟩ := hstep.exists_decode order htake.ge
  have hencode := encode_decode hdecode
  rw [hstep.total_widths, List.take_take, min_self] at hencode
  refine ⟨record, ?_, hencode⟩
  rw [decodeFront?_of_le order hlength, hdecode]
  rfl

theorem InStep.oneToOne (hstep : format.InStep) (order : ByteOrder) :
    format.OneToOne order format.size := by
  constructor
  · intro record
    have hlength := hstep.length_bytes order record
    refine ⟨format.bytes order record, hstep.encode_eq_ok order record,
      hlength, ?_⟩
    intro rest
    have henough : format.size ≤
        (format.bytes order record ++ rest).length := by
      rw [List.length_append]
      omega
    have hdecode := hstep.decode_bytes order record []
    rw [List.append_nil] at hdecode
    rw [decodeFront?_of_le order henough, ← hlength, List.take_left, hdecode]
    rfl
  · intro bytes
    constructor
    · intro hnone
      by_contra hlength
      obtain ⟨record, hsome, _⟩ :=
        hstep.exists_decodeFront? order (not_lt.mp hlength)
      rw [hsome] at hnone
      cases hnone
    · exact decodeFront?_of_lt
  · intro bytes hlength
    obtain ⟨record, hsome, _⟩ := hstep.exists_decodeFront? order hlength
    exact ⟨record, hsome⟩
  · intro bytes record hdecode
    by_cases hshort : bytes.length < format.size
    · rw [decodeFront?_of_lt hshort] at hdecode
      cases hdecode
    · obtain ⟨other, hsome, hencode⟩ :=
        hstep.exists_decodeFront? order (not_lt.mp hshort)
      rw [hsome] at hdecode
      cases hdecode
      exact hencode

end Format

/-- From as many bytes as a section header takes, all of them are decoded. -/
theorem Section.decodeFront?_of_length (order : ByteOrder) {width : Width}
    {stored : Bytes} (hlength : stored.length = width.sectionHeaderSize) :
    decodeFront? order stored width =
      (decode order stored width).map some := by
  cases width with
  | bits32 =>
      rw [decodeFront?, decode,
        Format.decodeFront?_of_length order hlength]
      cases NarrowSection.format.decode order stored <;> rfl
  | bits64 =>
      rw [decodeFront?, decode,
        Format.decodeFront?_of_length order hlength]
      cases WideSection.format.decode order stored <;> rfl

/-- Section headers of either form are the strings of 68 or of 80 bytes. -/
theorem Section.headers_one_to_one (order : ByteOrder) :
    NarrowSection.format.OneToOne order 68 ∧
      WideSection.format.OneToOne order 80 := by
  constructor
  · have hnarrow := NarrowSection.inStep_format.oneToOne order
    rwa [NarrowSection.size_format] at hnarrow
  · have hwide := WideSection.inStep_format.oneToOne order
    rwa [WideSection.size_format] at hwide

end MachO
