import MachO.Defect
import MachO.Text.Hex

/-!
# Hex dumps

Bytes in rows of sixteen: the address of the row, the bytes in hexadecimal in
an area of fixed width, and the same bytes as characters where they are
printable ASCII.
-/

namespace MachO.Hexdump

def rowLength : Nat := 16

/-- The number of columns of the hexadecimal area. -/
def areaWidth : Nat := 47

/-- A byte as a character, or a dot if it is no printable ASCII. -/
def character (byte : UInt8) : Char :=
  if 0x20 ≤ byte ∧ byte ≤ 0x7e then Char.ofNat byte.toNat else '.'

/-- The bytes of a row in hexadecimal, filled up with spaces. -/
def area (row : Bytes) : String :=
  String.ofList
    ((" ".intercalate (row.map Text.Hex.ofByte)).toList.rightpad areaWidth ' ')

def line (address : Nat) (row : Bytes) : String :=
  Text.Hex.padded 8 address ++ "  " ++ area row ++ "  |" ++
    String.ofList (row.map character) ++ "|"

/-- The bytes cut into full rows and a last shorter one. -/
def rows (bytes : Bytes) : List Bytes :=
  match bytes with
  | [] => []
  | byte :: rest =>
      (byte :: rest).take rowLength :: rows ((byte :: rest).drop rowLength)
termination_by bytes.length
decreasing_by
  simp only [rowLength, List.length_drop, List.length_cons]
  omega

/-- The lines of rows of which the first has the given address. -/
def linesOf (address : Nat) : List Bytes → Except Defect (List String)
  | [] => .ok []
  | row :: rest =>
      if addressableRange ≤ address then .error .labelRange
      else (linesOf (address + rowLength) rest).map (line address row :: ·)

def lines (base : Nat) (bytes : Bytes) : Except Defect (List String) :=
  linesOf base (rows bytes)

end MachO.Hexdump
