import MachO.Text.Utf8

/-!
# Fixed names

Segments and sections carry names in fields of 16 bytes, padded with zero
bytes.  A name of 16 bytes has no padding and no terminator.  The field is
kept whole: what stands after the first zero byte is not shown, but it is not
lost either.
-/

namespace MachO

/-- The contents of a 16-byte name field. -/
structure FixedName where
  raw : Bytes
  length_raw : raw.length = 16
  deriving DecidableEq

namespace FixedName

def width : Nat := 16

/-- The field that starts with the given bytes: cut after 16, or filled up
with zero bytes. -/
def ofBytes (bytes : Bytes) : FixedName where
  raw := (bytes.take width).rightpad width 0
  length_raw := by
    simp only [List.rightpad, width, List.length_append, List.length_take,
      List.length_replicate]
    omega

/-- The field that holds a text, cut after 16 bytes and not after a
character. -/
def ofText (text : String) : FixedName :=
  ofBytes (Text.Utf8.encode text)

def blank : FixedName := ofBytes []

/-- The bytes before the first zero byte. -/
def content (name : FixedName) : Bytes :=
  name.raw.takeWhile (· ≠ 0)

def text (name : FixedName) : String :=
  Text.Utf8.decode name.content

theorem raw_ofBytes {bytes : Bytes} (hlength : bytes.length = 16) :
    (ofBytes bytes).raw = bytes := by
  simp [ofBytes, List.rightpad, width, hlength, List.take_of_length_le]

@[simp] theorem ofBytes_raw (name : FixedName) : ofBytes name.raw = name := by
  cases name with
  | mk raw hlength =>
      have h := raw_ofBytes hlength
      cases hname : ofBytes raw with
      | mk other _ => simp_all

end FixedName

end MachO
