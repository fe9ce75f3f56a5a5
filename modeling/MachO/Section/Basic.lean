import MachO.FixedName
import MachO.Width

/-!
# Sections

A section header names a section and its segment, and says where the section
lies in memory and in the file.  The two forms share the order of their fields
and differ in the width of address and size; the 64-bit form has one word
more.  `Section` is a header of either form, and its accessors give the same
answers for both.
-/

namespace MachO

structure NarrowSection where
  sectionName : FixedName
  segmentName : FixedName
  address : UInt32
  size : UInt32
  /-- Where the contents start in the file. -/
  offset : UInt32
  /-- The exponent of a power of two. -/
  alignment : UInt32
  relocationOffset : UInt32
  relocationCount : UInt32
  /-- The type in the low byte, and attributes above. -/
  flags : UInt32
  reserved1 : UInt32
  reserved2 : UInt32
  deriving DecidableEq

structure WideSection where
  sectionName : FixedName
  segmentName : FixedName
  address : UInt64
  size : UInt64
  offset : UInt32
  alignment : UInt32
  relocationOffset : UInt32
  relocationCount : UInt32
  flags : UInt32
  reserved1 : UInt32
  reserved2 : UInt32
  reserved3 : UInt32
  deriving DecidableEq

inductive Section
  | narrow (header : NarrowSection)
  | wide (header : WideSection)
  deriving DecidableEq

namespace Section

def width : Section → Width
  | narrow _ => .bits32
  | wide _ => .bits64

def isWide (s : Section) : Bool :=
  s.width = .bits64

def sectionName : Section → FixedName
  | narrow header => header.sectionName
  | wide header => header.sectionName

def segmentName : Section → FixedName
  | narrow header => header.segmentName
  | wide header => header.segmentName

def address : Section → Nat
  | narrow header => header.address.toNat
  | wide header => header.address.toNat

def size : Section → Nat
  | narrow header => header.size.toNat
  | wide header => header.size.toNat

def offset : Section → Nat
  | narrow header => header.offset.toNat
  | wide header => header.offset.toNat

def alignmentExponent : Section → UInt32
  | narrow header => header.alignment
  | wide header => header.alignment

/-- The alignment in bytes, or 0 where it would not fit 64 bits. -/
def alignment (s : Section) : Nat :=
  if s.alignmentExponent < 64 then 1 <<< s.alignmentExponent.toNat else 0

def relocationOffset : Section → UInt32
  | narrow header => header.relocationOffset
  | wide header => header.relocationOffset

def relocationCount : Section → UInt32
  | narrow header => header.relocationCount
  | wide header => header.relocationCount

def flags : Section → UInt32
  | narrow header => header.flags
  | wide header => header.flags

def type (s : Section) : UInt32 :=
  s.flags &&& 0xff

def attributes (s : Section) : UInt32 :=
  s.flags &&& 0xffffff00

/-- The types of sections that have memory but no bytes in the file: plain,
large and thread-local zero fill. -/
def zeroFillTypes : List UInt32 :=
  [0x1, 0xc, 0x12]

def isZeroFill (s : Section) : Bool :=
  zeroFillTypes.contains s.type

def reserved1 : Section → UInt32
  | narrow header => header.reserved1
  | wide header => header.reserved1

def reserved2 : Section → UInt32
  | narrow header => header.reserved2
  | wide header => header.reserved2

/-- The third reserved word, which the 32-bit form lacks. -/
def reserved3? : Section → Option UInt32
  | narrow _ => none
  | wide header => some header.reserved3

end Section

end MachO
