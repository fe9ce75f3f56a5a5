import MachO.Error
import MachO.Segment.Codec

/-!
# Load commands

The load commands of an image lie one after the other in an area behind its
header.  Each starts with a code and a size, and the next one starts where
that size ends.  A walk takes a given number of commands from the front of the
area and stops at the first one that breaks a rule; what lies behind the last
command is not looked at.
-/

namespace MachO

/-- A load command and where it was found. -/
structure LoadCommand where
  position : Nat
  code : UInt32
  /-- The number of bytes of the whole command, as it says itself. -/
  size : UInt32
  segment? : Option Segment
  deriving DecidableEq

namespace LoadCommand

/-- The number of bytes that every command has: its code and its size. -/
def leastSize : Nat := 8

/-- The codes with a structure of their own, and the bytes that it takes.
Those above 2^31 are commands that a loader must understand. -/
def structureSizes : List (UInt32 × Nat) := [
  (0x1, 56), (0x2, 24), (0x4, 8), (0x5, 8), (0xb, 80), (0xc, 24),
  (0xd, 24), (0xe, 12), (0xf, 12), (0x10, 20), (0x11, 40), (0x12, 12),
  (0x13, 12), (0x14, 12), (0x15, 12), (0x16, 16), (0x17, 12),
  (0x80000018, 24), (0x19, 72), (0x1a, 72), (0x1b, 24),
  (0x8000001c, 12), (0x1d, 16), (0x1e, 16), (0x8000001f, 24),
  (0x20, 24), (0x21, 20), (0x22, 48), (0x80000022, 48),
  (0x80000023, 24), (0x24, 16), (0x25, 16), (0x26, 16), (0x27, 12),
  (0x80000028, 24), (0x29, 16), (0x2a, 16), (0x2b, 16), (0x2c, 24),
  (0x2d, 12), (0x2e, 16), (0x2f, 16), (0x30, 16), (0x31, 40),
  (0x32, 24), (0x80000033, 16), (0x80000034, 16), (0x80000035, 32)]

def structureSize (code : UInt32) : Nat :=
  (structureSizes.lookup code).getD leastSize

/-- The command at the front of what is left of the area. -/
def read (order : ByteOrder) (position : Nat) (area : Bytes) :
    Except Error LoadCommand :=
  if area.length < leastSize then
    .error (.malformed .commandHeader)
  else
    let code := order.word32At area 0
    let size := order.word32At area 4
    if size.toNat < leastSize ∨ area.length < size.toNat then
      .error (.malformed .commandSize)
    else if size.toNat < structureSize code then
      .error (.malformed .structureSize)
    else
      match Width.ofSegmentCode? code with
      | none => .ok ⟨position, code, size, none⟩
      | some width =>
          match Segment.decode order position area width with
          | .error mistake => .error (.defect mistake)
          | .ok segment => .ok ⟨position, code, size, some segment⟩

end LoadCommand

/-- The commands that were taken, in order, and why there are no more, if the
walk stopped early. -/
structure Walk where
  commands : List LoadCommand
  failure? : Option Error
  deriving DecidableEq

namespace Walk

/-- Takes `count` commands from the front of the area, whose first byte stands
at `position` of the image. -/
def run (order : ByteOrder) : (count position : Nat) → (area : Bytes) → Walk
  | 0, _, _ => ⟨[], none⟩
  | count + 1, position, area =>
      match LoadCommand.read order position area with
      | .error failure => ⟨[], some failure⟩
      | .ok command =>
          let next := position + command.size.toNat
          if addressableRange ≤ next then
            ⟨[command], some (.defect .positionRange)⟩
          else
            let rest := run order count next (area.drop command.size.toNat)
            ⟨command :: rest.commands, rest.failure?⟩

def segments (walk : Walk) : List Segment :=
  walk.commands.filterMap LoadCommand.segment?

end Walk

end MachO
