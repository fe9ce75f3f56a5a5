import MachO.ByteOrder

/-!
# Hexadecimal text

Numbers in lower-case hexadecimal, and bytes as two digits each.
-/

namespace MachO.Text.Hex

/-- A number in as few digits as it takes, and in at least `width`. -/
def padded (width number : Nat) : String :=
  String.ofList ((Nat.toDigits 16 number).leftpad width '0')

def ofNat (number : Nat) : String :=
  padded 1 number

def ofByte (byte : UInt8) : String :=
  padded 2 byte.toNat

/-- Bytes one after the other, with nothing in between. -/
def ofBytes (bytes : Bytes) : String :=
  String.join (bytes.map ofByte)

end MachO.Text.Hex
