import MachO.Section.Printer
import MachO.Segment.Printer

/-!
# Log events

What is reported while an image is read and a table is built.
-/

namespace MachO.Log

inductive Level
  | error
  | warn
  | info
  | debug
  | trace
  deriving DecidableEq

/-- The place of a level in the order: what is shown at one level is shown at
all greater ones. -/
def Level.rank : Level → Nat
  | error => 1
  | warn => 2
  | info => 3
  | debug => 4
  | trace => 5

def Level.label : Level → String
  | error => "ERROR"
  | warn => "WARN"
  | info => "INFO"
  | debug => "DEBUG"
  | trace => "TRACE"

inductive Event
  | segment (found : Segment)
  | skipped (code : UInt32) (position : Nat)
  | image (order : ByteOrder) (width : Width) (segments : Nat)
  | reading (count : UInt32) (width : Width) (start : Nat)
  | sectionRead (index : Nat) (header : Section)
  | built (sections segments : Nat)
  deriving DecidableEq

namespace Event

open Text

def level : Event → Level
  | skipped .. => .trace
  | sectionRead .. => .trace
  | _ => .debug

/-- The part of the program that reports the event. -/
def target : Event → String
  | segment .. => "sectab::macho"
  | skipped .. => "sectab::macho"
  | image .. => "sectab::macho"
  | _ => "sectab::table"

/-- The names of the fields of an event: all that it tells is its message. -/
def fields (_ : Event) : List String :=
  ["message"]

def message : Event → String
  | segment found => "Segment " ++ found.display
  | skipped code position =>
      "Skipping load command 0x" ++ Hex.ofNat code.toNat ++
        " at 0x" ++ Hex.ofNat position
  | image order width segments =>
      "Mach-O " ++ (match order with | .little => "Little" | .big => "Big") ++
        " " ++ width.label ++ " image, " ++ toString segments ++ " segments"
  | reading count width start =>
      "Reading " ++ toString count.toNat ++ " " ++ width.label ++
        " sections at 0x" ++ Hex.ofNat start
  | sectionRead index header =>
      "Section " ++ toString index ++ " -> " ++ header.display
  | built sections segments =>
      "Built section table with " ++ toString sections ++
        " sections from " ++ toString segments ++ " segments"

end Event

end MachO.Log
