import MachO.Proofs.Grammar

/-!
# Blueprints of images

A blueprint says what is to stand in an image: the free words of its header,
its load commands, and the bytes behind them.  What follows from that is filled
in when the image is written: the sizes, the counts, and the places.

Segment commands are written with the headers of their sections behind them,
in either form and independently of the form of the image.
-/

namespace MachO

/-- What a segment command says, less its code, its size and the number of its
sections. -/
structure SegmentFields (Word : Type) where
  name : FixedName
  vmAddress : Word
  vmSize : Word
  fileOffset : Word
  fileSize : Word
  maxProtection : UInt32
  initialProtection : UInt32
  flags : UInt32

inductive Draft
  | narrow (fields : SegmentFields UInt32) (sections : List NarrowSection)
  | wide (fields : SegmentFields UInt64) (sections : List WideSection)
  | other (code : UInt32) (body : Bytes)

namespace Draft

def code : Draft → UInt32
  | narrow .. => 0x1
  | wide .. => 0x19
  | other code _ => code

def size : Draft → Nat
  | narrow _ sections => 56 + sections.length * 68
  | wide _ sections => 72 + sections.length * 80
  | other _ body => 8 + body.length

/-- A command that is not for a segment has another code, and the bytes that
its kind demands. -/
def Valid : Draft → Prop
  | other code body =>
      code ≠ 0x1 ∧ code ≠ 0x19 ∧
        LoadCommand.structureSize code ≤ 8 + body.length
  | _ => True

instance : (draft : Draft) → Decidable draft.Valid
  | narrow .. => .isTrue trivial
  | wide .. => .isTrue trivial
  | other code body => inferInstanceAs (Decidable
      (code ≠ 0x1 ∧ code ≠ 0x19 ∧
        LoadCommand.structureSize code ≤ 8 + body.length))

def sections : Draft → List Section
  | narrow _ sections => sections.map .narrow
  | wide _ sections => sections.map .wide
  | other .. => []

/-- The segment that the command describes, if it stands at a position. -/
def segment? (position : Nat) : Draft → Option Segment
  | narrow fields sections => some {
      name := fields.name
      vmAddress := fields.vmAddress.toUInt64
      vmSize := fields.vmSize.toUInt64
      fileOffset := fields.fileOffset.toUInt64
      fileSize := fields.fileSize.toUInt64
      maxProtection := fields.maxProtection
      initialProtection := fields.initialProtection
      sectionCount := UInt32.ofNat sections.length
      flags := fields.flags
      position := position
      width := .bits32 }
  | wide fields sections => some {
      name := fields.name
      vmAddress := fields.vmAddress
      vmSize := fields.vmSize
      fileOffset := fields.fileOffset
      fileSize := fields.fileSize
      maxProtection := fields.maxProtection
      initialProtection := fields.initialProtection
      sectionCount := UInt32.ofNat sections.length
      flags := fields.flags
      position := position
      width := .bits64 }
  | other .. => none

def narrowCommand (fields : SegmentFields UInt32)
    (sections : List NarrowSection) : NarrowCommand where
  code := 0x1
  size := UInt32.ofNat (size (narrow fields sections))
  name := fields.name
  vmAddress := fields.vmAddress
  vmSize := fields.vmSize
  fileOffset := fields.fileOffset
  fileSize := fields.fileSize
  maxProtection := fields.maxProtection
  initialProtection := fields.initialProtection
  sectionCount := UInt32.ofNat sections.length
  flags := fields.flags

def wideCommand (fields : SegmentFields UInt64)
    (sections : List WideSection) : WideCommand where
  code := 0x19
  size := UInt32.ofNat (size (wide fields sections))
  name := fields.name
  vmAddress := fields.vmAddress
  vmSize := fields.vmSize
  fileOffset := fields.fileOffset
  fileSize := fields.fileSize
  maxProtection := fields.maxProtection
  initialProtection := fields.initialProtection
  sectionCount := UInt32.ofNat sections.length
  flags := fields.flags

def encode (order : ByteOrder) : Draft → Except Defect Bytes
  | narrow fields sections => do
      let command ←
        NarrowCommand.format.encode order (narrowCommand fields sections)
      let headers ← sections.mapM (NarrowSection.format.encode order)
      return command ++ headers.flatten
  | wide fields sections => do
      let command ←
        WideCommand.format.encode order (wideCommand fields sections)
      let headers ← sections.mapM (WideSection.format.encode order)
      return command ++ headers.flatten
  | other code body =>
      return order.ofWord32 code ++
        (order.ofWord32 (UInt32.ofNat (8 + body.length)) ++ body)

/-- The segments of commands that are written one after the other. -/
def segmentsFrom : (position : Nat) → List Draft → List Segment
  | _, [] => []
  | position, draft :: rest =>
      (draft.segment? position).toList ++
        segmentsFrom (position + draft.size) rest

end Draft

structure Blueprint where
  order : ByteOrder
  width : Width
  cpuType : UInt32
  cpuSubtype : UInt32
  fileType : UInt32
  flags : UInt32
  /-- The last word of a header, in the 64-bit form only. -/
  reserved : UInt32
  drafts : List Draft
  trailer : Bytes

namespace Blueprint

def commandsSize (plan : Blueprint) : Nat :=
  (plan.drafts.map Draft.size).sum

def headerWords (plan : Blueprint) : List UInt32 :=
  [plan.width.magicWord, plan.cpuType, plan.cpuSubtype, plan.fileType,
    UInt32.ofNat plan.drafts.length, UInt32.ofNat plan.commandsSize,
    plan.flags] ++
    match plan.width with
    | .bits32 => []
    | .bits64 => [plan.reserved]

def encode (plan : Blueprint) : Except Defect Bytes := do
  let commands ← plan.drafts.mapM (Draft.encode plan.order)
  return plan.headerWords.flatMap plan.order.ofWord32 ++
    (commands.flatten ++ plan.trailer)

def image (plan : Blueprint) : Image where
  order := plan.order
  width := plan.width
  segments := Draft.segmentsFrom plan.width.imageHeaderSize plan.drafts

end Blueprint

end MachO
