import MachO.Segment.Basic
import MachO.Text.Hex
import MachO.Text.Outline
import MachO.Text.Quoted

/-!
# Segments as text
-/

namespace MachO.Segment

open Text

/-- The name, the ranges in memory and in the file, and the number of
sections. -/
def display (segment : Segment) : String :=
  segment.name.text ++
    " vm 0x" ++ Hex.ofNat segment.vmAddress.toNat ++
    "+0x" ++ Hex.ofNat segment.vmSize.toNat ++
    " file 0x" ++ Hex.ofNat segment.fileOffset.toNat ++
    "+0x" ++ Hex.ofNat segment.fileSize.toNat ++
    " (" ++ toString segment.sectionCount.toNat ++ " sections)"

def outline (style : Outline.Style) (segment : Segment) : Outline.Lines :=
  Outline.record style "Segment" [
    ("name", [Quoted.encode segment.name.text]),
    ("vm_address", [toString segment.vmAddress.toNat]),
    ("vm_size", [toString segment.vmSize.toNat]),
    ("file_offset", [toString segment.fileOffset.toNat]),
    ("file_size", [toString segment.fileSize.toNat]),
    ("max_protection", [toString segment.maxProtection.toNat]),
    ("initial_protection", [toString segment.initialProtection.toNat]),
    ("section_count", [toString segment.sectionCount.toNat]),
    ("flags", [toString segment.flags.toNat]),
    ("position", [toString segment.position]),
    ("variant", [segment.width.label])]

end MachO.Segment
