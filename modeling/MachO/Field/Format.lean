import MachO.Field

/-!
# Record formats

A format says how the records of a type take part in a table of fields: as a
list of values, and back.  The bytes come from the table alone.

Records and value lists correspond one to one by the laws of a format.  The
main statements carry this over to bytes: an encoded record reads back
(`decode_encode`), and a decoded record is encoded as it was
(`encode_decode`).
-/

namespace MachO

/-- A table of fields for the records of a type. -/
structure Format (Record : Type) where
  fields : List Field
  /-- The forms of the values of a record, in order. -/
  kinds : List Kind
  toValues : Record → List Value
  ofValues? : List Value → Option Record
  map_kind_toValues : ∀ record, (toValues record).map Value.kind = kinds
  ofValues?_toValues : ∀ record, ofValues? (toValues record) = some record
  toValues_of_ofValues? :
    ∀ {values record}, ofValues? values = some record →
      toValues record = values

namespace Format

variable {Record : Type}

def size (format : Format Record) : Nat :=
  Field.size format.fields

def encode (format : Format Record) (order : ByteOrder) (record : Record) :
    Except Defect Bytes :=
  Field.encode order format.fields (format.toValues record)

/-- The record at the front of the bytes, which must hold it whole. -/
def decode (format : Format Record) (order : ByteOrder) (bytes : Bytes) :
    Except Defect Record :=
  match Field.read order format.fields format.kinds bytes with
  | .error mistake => .error mistake
  | .ok values =>
      match format.ofValues? values with
      | none => .error .outOfStep
      | some record => .ok record

/-- The record at the front of the bytes, or none if they are too few. -/
def decodeFront? (format : Format Record) (order : ByteOrder) (bytes : Bytes) :
    Except Defect (Option Record) :=
  if bytes.length < format.size then .ok none
  else (format.decode order (bytes.take format.size)).map some

/-- A record was decoded from its own values. -/
theorem read_of_decode {format : Format Record} {order : ByteOrder}
    {record : Record} {bytes : Bytes}
    (hdecode : format.decode order bytes = .ok record) :
    Field.read order format.fields format.kinds bytes =
      .ok (format.toValues record) := by
  unfold decode at hdecode
  cases hread : Field.read order format.fields format.kinds bytes with
  | error mistake => simp [hread] at hdecode
  | ok values =>
      cases hvalues : format.ofValues? values with
      | none => simp [hread, hvalues] at hdecode
      | some other =>
          simp only [hread, hvalues, Except.ok.injEq] at hdecode
          subst hdecode
          rw [format.toValues_of_ofValues? hvalues]

theorem decode_of_read {format : Format Record} {order : ByteOrder}
    {record : Record} {bytes : Bytes}
    (hread : Field.read order format.fields format.kinds bytes =
      .ok (format.toValues record)) :
    format.decode order bytes = .ok record := by
  simp only [decode, hread, format.ofValues?_toValues]

/-- An encoded record reads back, whatever follows it. -/
theorem decode_encode {format : Format Record} {order : ByteOrder}
    {record : Record} {bytes : Bytes}
    (hencode : format.encode order record = .ok bytes) (rest : Bytes) :
    format.decode order (bytes ++ rest) = .ok record := by
  have hread := Field.read_encode hencode rest
  rw [format.map_kind_toValues] at hread
  exact decode_of_read hread

/-- A decoded record is encoded as it was. -/
theorem encode_decode {format : Format Record} {order : ByteOrder}
    {record : Record} {bytes : Bytes}
    (hdecode : format.decode order bytes = .ok record) :
    format.encode order record =
      .ok (bytes.take (Field.total (format.kinds.map Kind.width))) :=
  Field.encode_read (read_of_decode hdecode)

end Format

end MachO
