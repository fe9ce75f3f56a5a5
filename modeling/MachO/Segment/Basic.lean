import MachO.FixedName
import MachO.Width

/-!
# Segments

A segment command maps a part of the file into memory and is followed by the
headers of its sections.  Both forms are kept with 64-bit fields, together
with where the command was found.  A `View` is the part of it that reading the
section headers takes; a view need not come from an image.
-/

namespace MachO

structure Segment where
  name : FixedName
  vmAddress : UInt64
  vmSize : UInt64
  fileOffset : UInt64
  fileSize : UInt64
  maxProtection : UInt32
  initialProtection : UInt32
  sectionCount : UInt32
  flags : UInt32
  position : Nat
  width : Width
  deriving DecidableEq

/-- Where an array of section headers lies and what it holds. -/
structure View where
  position : Nat
  /-- The number of bytes from there to the first section header. -/
  headerSize : Nat
  sectionCount : UInt32
  /-- The code of the command, which tells the form of the headers. -/
  command : UInt32
  deriving DecidableEq

def Segment.headerSize (segment : Segment) : Nat :=
  segment.width.segmentHeaderSize

def Segment.command (segment : Segment) : UInt32 :=
  segment.width.segmentCode

def Segment.view (segment : Segment) : View where
  position := segment.position
  headerSize := segment.headerSize
  sectionCount := segment.sectionCount
  command := segment.command

def View.start (view : View) : Nat :=
  view.position + view.headerSize

def View.width? (view : View) : Option Width :=
  Width.ofSegmentCode? view.command

@[simp] theorem Segment.width?_view (segment : Segment) :
    segment.view.width? = some segment.width := by
  simp [view, View.width?, command]

end MachO
