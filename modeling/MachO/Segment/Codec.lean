import MachO.Field.Format
import MachO.Segment.Basic

/-!
# Segment commands on disk

A segment command starts with its code and its size, like every load command;
its own fields follow.  The 32-bit form has four words where the 64-bit form
has four double words.  A `Segment` is made of either, with the words widened
and the code and the size left out.
-/

namespace MachO

/-- The fixed part of a segment command of 56 bytes. -/
structure NarrowCommand where
  code : UInt32
  size : UInt32
  name : FixedName
  vmAddress : UInt32
  vmSize : UInt32
  fileOffset : UInt32
  fileSize : UInt32
  maxProtection : UInt32
  initialProtection : UInt32
  sectionCount : UInt32
  flags : UInt32
  deriving DecidableEq

/-- The fixed part of a segment command of 72 bytes. -/
structure WideCommand where
  code : UInt32
  size : UInt32
  name : FixedName
  vmAddress : UInt64
  vmSize : UInt64
  fileOffset : UInt64
  fileSize : UInt64
  maxProtection : UInt32
  initialProtection : UInt32
  sectionCount : UInt32
  flags : UInt32
  deriving DecidableEq

def NarrowCommand.format : Format NarrowCommand where
  fields := [
    ⟨"cmd", 4⟩, ⟨"cmdsize", 4⟩, ⟨"segname", 16⟩,
    ⟨"vmaddr", 4⟩, ⟨"vmsize", 4⟩, ⟨"fileoff", 4⟩, ⟨"filesize", 4⟩,
    ⟨"maxprot", 4⟩, ⟨"initprot", 4⟩, ⟨"nsects", 4⟩, ⟨"flags", 4⟩]
  kinds := [
    .word32, .word32, .name, .word32, .word32, .word32, .word32,
    .word32, .word32, .word32, .word32]
  toValues command := [
    .word32 command.code, .word32 command.size, .name command.name,
    .word32 command.vmAddress, .word32 command.vmSize,
    .word32 command.fileOffset, .word32 command.fileSize,
    .word32 command.maxProtection, .word32 command.initialProtection,
    .word32 command.sectionCount, .word32 command.flags]
  ofValues?
    | [.word32 code, .word32 size, .name name,
        .word32 vmAddress, .word32 vmSize,
        .word32 fileOffset, .word32 fileSize,
        .word32 maxProtection, .word32 initialProtection,
        .word32 sectionCount, .word32 flags] =>
        some {
          code, size, name, vmAddress, vmSize, fileOffset, fileSize,
          maxProtection, initialProtection, sectionCount, flags }
    | _ => none
  map_kind_toValues _ := rfl
  ofValues?_toValues _ := rfl
  toValues_of_ofValues? := by
    intro values command hvalues
    split at hvalues
    · cases hvalues
      rfl
    · cases hvalues

def WideCommand.format : Format WideCommand where
  fields := [
    ⟨"cmd", 4⟩, ⟨"cmdsize", 4⟩, ⟨"segname", 16⟩,
    ⟨"vmaddr", 8⟩, ⟨"vmsize", 8⟩, ⟨"fileoff", 8⟩, ⟨"filesize", 8⟩,
    ⟨"maxprot", 4⟩, ⟨"initprot", 4⟩, ⟨"nsects", 4⟩, ⟨"flags", 4⟩]
  kinds := [
    .word32, .word32, .name, .word64, .word64, .word64, .word64,
    .word32, .word32, .word32, .word32]
  toValues command := [
    .word32 command.code, .word32 command.size, .name command.name,
    .word64 command.vmAddress, .word64 command.vmSize,
    .word64 command.fileOffset, .word64 command.fileSize,
    .word32 command.maxProtection, .word32 command.initialProtection,
    .word32 command.sectionCount, .word32 command.flags]
  ofValues?
    | [.word32 code, .word32 size, .name name,
        .word64 vmAddress, .word64 vmSize,
        .word64 fileOffset, .word64 fileSize,
        .word32 maxProtection, .word32 initialProtection,
        .word32 sectionCount, .word32 flags] =>
        some {
          code, size, name, vmAddress, vmSize, fileOffset, fileSize,
          maxProtection, initialProtection, sectionCount, flags }
    | _ => none
  map_kind_toValues _ := rfl
  ofValues?_toValues _ := rfl
  toValues_of_ofValues? := by
    intro values command hvalues
    split at hvalues
    · cases hvalues
      rfl
    · cases hvalues

namespace Segment

def ofNarrow (position : Nat) (command : NarrowCommand) : Segment where
  name := command.name
  vmAddress := command.vmAddress.toUInt64
  vmSize := command.vmSize.toUInt64
  fileOffset := command.fileOffset.toUInt64
  fileSize := command.fileSize.toUInt64
  maxProtection := command.maxProtection
  initialProtection := command.initialProtection
  sectionCount := command.sectionCount
  flags := command.flags
  position := position
  width := .bits32

def ofWide (position : Nat) (command : WideCommand) : Segment where
  name := command.name
  vmAddress := command.vmAddress
  vmSize := command.vmSize
  fileOffset := command.fileOffset
  fileSize := command.fileSize
  maxProtection := command.maxProtection
  initialProtection := command.initialProtection
  sectionCount := command.sectionCount
  flags := command.flags
  position := position
  width := .bits64

/-- The segment whose command stands at the front of the bytes, which must
hold its fixed part whole. -/
def decode (order : ByteOrder) (position : Nat) (bytes : Bytes) :
    Width → Except Defect Segment
  | .bits32 => (NarrowCommand.format.decode order bytes).map (ofNarrow position)
  | .bits64 => (WideCommand.format.decode order bytes).map (ofWide position)

/-- The segment that the bytes of a command hold, in the form whose fixed part
has just as many bytes. -/
def ofCommand? (order : ByteOrder) (position : Nat) (bytes : Bytes) :
    Option (Except Defect Segment) :=
  if bytes.length = Width.bits32.segmentHeaderSize then
    some (decode order position bytes .bits32)
  else if bytes.length = Width.bits64.segmentHeaderSize then
    some (decode order position bytes .bits64)
  else
    none

end Segment

end MachO
