import MachO.Field.Format
import MachO.Section.Basic

/-!
# Section headers on disk

Each form of a section header has a format of its own.  The two tables agree
but for the widths of address and size and the last field.
-/

namespace MachO

def NarrowSection.format : Format NarrowSection where
  fields := [
    ⟨"sectname", 16⟩, ⟨"segname", 16⟩, ⟨"addr", 4⟩, ⟨"size", 4⟩,
    ⟨"offset", 4⟩, ⟨"align", 4⟩, ⟨"reloff", 4⟩, ⟨"nreloc", 4⟩,
    ⟨"flags", 4⟩, ⟨"reserved1", 4⟩, ⟨"reserved2", 4⟩]
  kinds := [
    .name, .name, .word32, .word32,
    .word32, .word32, .word32, .word32,
    .word32, .word32, .word32]
  toValues header := [
    .name header.sectionName, .name header.segmentName,
    .word32 header.address, .word32 header.size, .word32 header.offset,
    .word32 header.alignment, .word32 header.relocationOffset,
    .word32 header.relocationCount, .word32 header.flags,
    .word32 header.reserved1, .word32 header.reserved2]
  ofValues?
    | [.name sectionName, .name segmentName,
        .word32 address, .word32 size, .word32 offset,
        .word32 alignment, .word32 relocationOffset,
        .word32 relocationCount, .word32 flags,
        .word32 reserved1, .word32 reserved2] =>
        some {
          sectionName, segmentName, address, size, offset, alignment,
          relocationOffset, relocationCount, flags, reserved1, reserved2 }
    | _ => none
  map_kind_toValues _ := rfl
  ofValues?_toValues _ := rfl
  toValues_of_ofValues? := by
    intro values header hvalues
    split at hvalues
    · cases hvalues
      rfl
    · cases hvalues

def WideSection.format : Format WideSection where
  fields := [
    ⟨"sectname", 16⟩, ⟨"segname", 16⟩, ⟨"addr", 8⟩, ⟨"size", 8⟩,
    ⟨"offset", 4⟩, ⟨"align", 4⟩, ⟨"reloff", 4⟩, ⟨"nreloc", 4⟩,
    ⟨"flags", 4⟩, ⟨"reserved1", 4⟩, ⟨"reserved2", 4⟩, ⟨"reserved3", 4⟩]
  kinds := [
    .name, .name, .word64, .word64,
    .word32, .word32, .word32, .word32,
    .word32, .word32, .word32, .word32]
  toValues header := [
    .name header.sectionName, .name header.segmentName,
    .word64 header.address, .word64 header.size, .word32 header.offset,
    .word32 header.alignment, .word32 header.relocationOffset,
    .word32 header.relocationCount, .word32 header.flags,
    .word32 header.reserved1, .word32 header.reserved2,
    .word32 header.reserved3]
  ofValues?
    | [.name sectionName, .name segmentName,
        .word64 address, .word64 size, .word32 offset,
        .word32 alignment, .word32 relocationOffset,
        .word32 relocationCount, .word32 flags,
        .word32 reserved1, .word32 reserved2, .word32 reserved3] =>
        some {
          sectionName, segmentName, address, size, offset, alignment,
          relocationOffset, relocationCount, flags, reserved1, reserved2,
          reserved3 }
    | _ => none
  map_kind_toValues _ := rfl
  ofValues?_toValues _ := rfl
  toValues_of_ofValues? := by
    intro values header hvalues
    split at hvalues
    · cases hvalues
      rfl
    · cases hvalues

@[simp] theorem NarrowSection.size_format : NarrowSection.format.size = 68 := rfl

@[simp] theorem WideSection.size_format : WideSection.format.size = 80 := rfl

namespace Section

def encode (order : ByteOrder) : Section → Except Defect Bytes
  | narrow header => NarrowSection.format.encode order header
  | wide header => WideSection.format.encode order header

/-- The header at the front of the bytes, which must hold it whole. -/
def decode (order : ByteOrder) (bytes : Bytes) :
    Width → Except Defect Section
  | .bits32 => (NarrowSection.format.decode order bytes).map narrow
  | .bits64 => (WideSection.format.decode order bytes).map wide

def decodeFront? (order : ByteOrder) (bytes : Bytes) :
    Width → Except Defect (Option Section)
  | .bits32 => (NarrowSection.format.decodeFront? order bytes).map (·.map narrow)
  | .bits64 => (WideSection.format.decodeFront? order bytes).map (·.map wide)

end Section

end MachO
