/-!
# Widths

An image, a segment command and a section header each come in a 32-bit and a
64-bit form.  The form of a segment command is told by its code, and the
section headers behind it have the same form.  The sizes are those of the
fixed parts on disk.
-/

namespace MachO

inductive Width
  | bits32
  | bits64
  deriving DecidableEq

namespace Width

def label : Width → String
  | bits32 => "Bits32"
  | bits64 => "Bits64"

/-- The code of the load command that describes a segment of this form. -/
def segmentCode : Width → UInt32
  | bits32 => 0x1
  | bits64 => 0x19

/-- The form of segment that a load command describes, if it describes
one. -/
def ofSegmentCode? (code : UInt32) : Option Width :=
  if code = 0x1 then some bits32
  else if code = 0x19 then some bits64
  else none

/-- The magic word of an image of this form, read in the order of the
image. -/
def magicWord : Width → UInt32
  | bits32 => 0xfeedface
  | bits64 => 0xfeedfacf

/-- The magic word of an image of this form, read in the other order. -/
def swappedMagicWord : Width → UInt32
  | bits32 => 0xcefaedfe
  | bits64 => 0xcffaedfe

def imageHeaderSize : Width → Nat
  | bits32 => 28
  | bits64 => 32

def segmentHeaderSize : Width → Nat
  | bits32 => 56
  | bits64 => 72

def sectionHeaderSize : Width → Nat
  | bits32 => 68
  | bits64 => 80

@[simp] theorem ofSegmentCode?_segmentCode (width : Width) :
    ofSegmentCode? width.segmentCode = some width := by
  cases width <;> rfl

theorem segmentCode_of_ofSegmentCode? {code : UInt32} {width : Width}
    (hwidth : ofSegmentCode? code = some width) :
    width.segmentCode = code := by
  unfold ofSegmentCode? at hwidth
  split at hwidth
  · next hcode => cases hwidth; exact hcode.symm
  · split at hwidth
    · next hcode => cases hwidth; exact hcode.symm
    · cases hwidth

end Width

end MachO
