import MachO.Defect
import MachO.Text.Hex

/-!
# Errors

Why an image is refused, or an operation on a stream fails.  Each error is a
cause with what belongs to it; the wording is in `message`, and an error that
has a reason of its own tells it in `reason?`.
-/

namespace MachO

inductive DeviceFault
  | notSeekable
  | seekPastEnd
  | positionUnknown
  | readFailed
  deriving DecidableEq

inductive Malformation
  /-- The header is cut short. -/
  | header
  /-- The magic word of the header is not one of its form. -/
  | unsupportedHeader
  /-- The byte order of the header is not at hand. -/
  | unsupportedOrder
  /-- The area of the load commands is cut short. -/
  | commandTable
  /-- A load command is announced where its own first words do not fit. -/
  | commandHeader
  /-- A load command is too short for its first words, or too long for the
  area. -/
  | commandSize
  /-- A load command is shorter than its kind demands. -/
  | structureSize
  deriving DecidableEq

inductive Error
  | shortRead (position expected : Nat)
  | seekFailure (position : Nat) (fault : DeviceFault)
  | positionUnknown (fault : DeviceFault)
  | readFailure (position : Nat) (fault : DeviceFault)
  /-- The section headers of a segment would start past the 64-bit range. -/
  | positionOverflow (position size : Nat)
  | unsupportedCommand (code : UInt32)
  | handleInUse
  | badMagic (magic : UInt32)
  | malformed (rule : Malformation)
  /-- A caller's mistake, which no input can bring about. -/
  | defect (mistake : Defect)
  deriving DecidableEq

def DeviceFault.message : DeviceFault → String
  | notSeekable => "not seekable"
  | seekPastEnd => "seek past end"
  | positionUnknown => "position unknown"
  | readFailed => "device failure"

def Malformation.message : Malformation → String
  | header => "Invalid Mach-O header size or alignment"
  | unsupportedHeader => "Unsupported Mach-O header"
  | unsupportedOrder => "Unsupported Mach-O endian"
  | commandTable => "Invalid Mach-O load command table size"
  | commandHeader => "Invalid Mach-O load command header"
  | commandSize => "Invalid Mach-O load command size"
  | structureSize => "Invalid Mach-O command size"

def Defect.message : Defect → String
  | outOfStep => "field table out of sync"
  | exhausted => "too few bytes for a field"
  | positionRange => "position past the 64-bit range"
  | labelRange => "row label past the 64-bit range"

namespace Error

open Text

def message : Error → String
  | shortRead position expected =>
      "short read at 0x" ++ Hex.ofNat position ++ ": expected " ++
        toString expected ++ " bytes"
  | seekFailure position _ => "cannot seek to 0x" ++ Hex.ofNat position
  | positionUnknown _ => "cannot query stream position"
  | readFailure position _ => "read failed at 0x" ++ Hex.ofNat position
  | positionOverflow position size =>
      "section array of segment at 0x" ++ Hex.ofNat position ++
        " (header size 0x" ++ Hex.ofNat size ++
        ") is past the addressable range"
  | unsupportedCommand code =>
      "unsupported segment load command 0x" ++ Hex.ofNat code.toNat
  | handleInUse => "stream handle is in use by another operation"
  | badMagic magic =>
      "not a Mach-O image (magic 0x" ++ Hex.padded 8 magic.toNat ++ ")"
  | malformed _ => "malformed Mach-O image"
  | defect mistake => mistake.message

def reason? : Error → Option String
  | seekFailure _ fault => some fault.message
  | positionUnknown fault => some fault.message
  | readFailure _ fault => some fault.message
  | malformed rule => some rule.message
  | _ => none

end Error

end MachO
