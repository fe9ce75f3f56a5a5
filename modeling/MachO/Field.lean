import MachO.Defect
import MachO.FixedName

/-!
# Field tables

A record on disk is a row of fields, and its table gives their names and
widths.  Reading and writing go through the table in step with the values:
each value must have the width of the field at its turn.  Fields or bytes that
are left over do no harm.

The main statements say that what is written reads back (`read_encode`), and
that what is read is written as it was (`encode_read`).
-/

namespace MachO

structure Field where
  name : String
  width : Nat
  deriving DecidableEq

inductive Kind
  | word32
  | word64
  | name
  deriving DecidableEq

def Kind.width : Kind → Nat
  | word32 => 4
  | word64 => 8
  | name => FixedName.width

inductive Value
  | word32 (word : UInt32)
  | word64 (word : UInt64)
  | name (contents : FixedName)
  deriving DecidableEq

namespace Value

def kind : Value → Kind
  | word32 _ => .word32
  | word64 _ => .word64
  | name _ => .name

def encode (order : ByteOrder) : Value → Bytes
  | word32 word => order.ofWord32 word
  | word64 word => order.ofWord64 word
  | name contents => contents.raw

/-- The value that stored bytes stand for. -/
def decode (order : ByteOrder) (stored : Bytes) : Kind → Value
  | .word32 => word32 (order.word32 stored)
  | .word64 => word64 (order.word64 stored)
  | .name => name (FixedName.ofBytes stored)

@[simp] theorem length_encode (order : ByteOrder) (value : Value) :
    (value.encode order).length = value.kind.width := by
  cases value with
  | word32 _ => simp [encode, kind, Kind.width]
  | word64 _ => simp [encode, kind, Kind.width]
  | name contents => exact contents.length_raw

@[simp] theorem kind_decode (order : ByteOrder) (stored : Bytes) (kind : Kind) :
    (decode order stored kind).kind = kind := by
  cases kind <;> rfl

@[simp] theorem decode_encode (order : ByteOrder) (value : Value) :
    decode order (value.encode order) value.kind = value := by
  cases value <;> simp [encode, decode, kind]

theorem encode_decode (order : ByteOrder) {stored : Bytes} {kind : Kind}
    (hlength : stored.length = kind.width) :
    (decode order stored kind).encode order = stored := by
  cases kind with
  | word32 => exact order.ofWord32_word32 hlength
  | word64 => exact order.ofWord64_word64 hlength
  | name => exact FixedName.raw_ofBytes hlength

end Value

namespace Field

/-- How many bytes parts of the given widths take together. -/
def total : (widths : List Nat) → Nat
  | [] => 0
  | width :: widths => width + total widths

def size (fields : List Field) : Nat :=
  total (fields.map Field.width)

def read (order : ByteOrder) :
    List Field → List Kind → Bytes → Except Defect (List Value)
  | _, [], _ => .ok []
  | [], _ :: _, _ => .error .outOfStep
  | field :: fields, kind :: kinds, bytes =>
      if field.width ≠ kind.width then .error .outOfStep
      else if bytes.length < kind.width then .error .exhausted
      else
        (read order fields kinds (bytes.drop kind.width)).map
          (Value.decode order (bytes.take kind.width) kind :: ·)

def encode (order : ByteOrder) :
    List Field → List Value → Except Defect Bytes
  | _, [] => .ok []
  | [], _ :: _ => .error .outOfStep
  | field :: fields, value :: values =>
      if field.width ≠ value.kind.width then .error .outOfStep
      else (encode order fields values).map (value.encode order ++ ·)

def write (order : ByteOrder) (fields : List Field) (values : List Value)
    (start : Bytes) : Except Defect Bytes :=
  (encode order fields values).map (start ++ ·)

/-- A value that was read took the next field and the next bytes, and left the
others to those after it. -/
theorem exists_of_read_cons {order : ByteOrder} {fields : List Field}
    {kind : Kind} {kinds : List Kind} {bytes : Bytes} {values : List Value}
    (hread : read order fields (kind :: kinds) bytes = .ok values) :
    ∃ field rest tail, fields = field :: rest ∧
      field.width = kind.width ∧ kind.width ≤ bytes.length ∧
        read order rest kinds (bytes.drop kind.width) = .ok tail ∧
          values = Value.decode order (bytes.take kind.width) kind :: tail := by
  cases fields with
  | nil => cases hread
  | cons field rest =>
      simp only [read] at hread
      split at hread
      · cases hread
      · next hwidth =>
        split at hread
        · cases hread
        · next hlength =>
          cases htail : read order rest kinds (bytes.drop kind.width) with
          | error defect => simp [htail, Except.map] at hread
          | ok tail =>
              simp only [htail, Except.map, Except.ok.injEq] at hread
              exact ⟨field, rest, tail, rfl, Decidable.not_not.mp hwidth,
                Nat.not_lt.mp hlength, htail, hread.symm⟩

theorem read_cons {order : ByteOrder} {field : Field} {fields : List Field}
    {kind : Kind} {kinds : List Kind} {bytes : Bytes} {tail : List Value}
    (hwidth : field.width = kind.width) (hlength : kind.width ≤ bytes.length)
    (htail : read order fields kinds (bytes.drop kind.width) = .ok tail) :
    read order (field :: fields) (kind :: kinds) bytes =
      .ok (Value.decode order (bytes.take kind.width) kind :: tail) := by
  rw [read, if_neg (Decidable.not_not.mpr hwidth),
    if_neg (Nat.not_lt.mpr hlength), htail]
  rfl

theorem exists_of_encode_cons {order : ByteOrder} {fields : List Field}
    {value : Value} {values : List Value} {bytes : Bytes}
    (hencode : encode order fields (value :: values) = .ok bytes) :
    ∃ field rest tail, fields = field :: rest ∧
      field.width = value.kind.width ∧
        encode order rest values = .ok tail ∧
          bytes = value.encode order ++ tail := by
  cases fields with
  | nil => cases hencode
  | cons field rest =>
      simp only [encode] at hencode
      split at hencode
      · cases hencode
      · next hwidth =>
        cases htail : encode order rest values with
        | error defect => simp [htail, Except.map] at hencode
        | ok tail =>
            simp only [htail, Except.map, Except.ok.injEq] at hencode
            exact ⟨field, rest, tail, rfl, Decidable.not_not.mp hwidth,
              htail, hencode.symm⟩

theorem encode_cons {order : ByteOrder} {field : Field} {fields : List Field}
    {value : Value} {values : List Value} {tail : Bytes}
    (hwidth : field.width = value.kind.width)
    (htail : encode order fields values = .ok tail) :
    encode order (field :: fields) (value :: values) =
      .ok (value.encode order ++ tail) := by
  rw [encode, if_neg (Decidable.not_not.mpr hwidth), htail]
  rfl

/-- What is written reads back, whatever follows it. -/
theorem read_encode {order : ByteOrder} {fields : List Field}
    {values : List Value} {bytes : Bytes}
    (hencode : encode order fields values = .ok bytes) (rest : Bytes) :
    read order fields (values.map Value.kind) (bytes ++ rest) = .ok values := by
  induction values generalizing fields bytes with
  | nil => simp [read]
  | cons value values ih =>
      obtain ⟨field, others, tail, rfl, hwidth, htail, rfl⟩ :=
        exists_of_encode_cons hencode
      have hlength := Value.length_encode order value
      have hfirst : (value.encode order ++ tail ++ rest).take
          value.kind.width = value.encode order := by
        rw [List.append_assoc, ← hlength, List.take_left]
      have hothers : (value.encode order ++ tail ++ rest).drop
          value.kind.width = tail ++ rest := by
        rw [List.append_assoc, ← hlength, List.drop_left]
      have henough : value.kind.width ≤
          (value.encode order ++ tail ++ rest).length := by
        rw [List.length_append, List.length_append, hlength]
        omega
      have hback := ih htail
      rw [← hothers] at hback
      rw [List.map_cons, read_cons hwidth henough hback, hfirst,
        Value.decode_encode]

/-- What is read is written as it was. -/
theorem encode_read {order : ByteOrder} {fields : List Field}
    {kinds : List Kind} {bytes : Bytes} {values : List Value}
    (hread : read order fields kinds bytes = .ok values) :
    encode order fields values =
      .ok (bytes.take (total (kinds.map Kind.width))) := by
  induction kinds generalizing fields bytes values with
  | nil =>
      simp only [read, Except.ok.injEq] at hread
      subst hread
      simp [encode, total]
  | cons kind kinds ih =>
      obtain ⟨field, rest, tail, rfl, hwidth, hlength, htail, rfl⟩ :=
        exists_of_read_cons hread
      have hstored : (bytes.take kind.width).length = kind.width := by
        rw [List.length_take]
        exact Nat.min_eq_left hlength
      have hkind := Value.kind_decode order (bytes.take kind.width) kind
      rw [encode_cons (hwidth.trans (congrArg Kind.width hkind.symm))
          (ih htail),
        Value.encode_decode order hstored, List.map_cons, total, List.take_add]

end Field

end MachO
