import MachO.Stream.Shared
import MachO.Table.Scan

/-!
# Section tables

All sections of an image in one list, by segment and then by place in the
segment.  The index of a section is its identity.  A section can be looked up
by the names of its segment and itself, and its contents read from the stream
that the table came from.
-/

namespace MachO

structure SectionTable where
  sections : List Section
  deriving DecidableEq

namespace SectionTable

/-- How a table was built: what was reported, what came out, and the stream
as it was left. -/
structure Building where
  events : List Log.Event
  result : Except Error SectionTable
  shared : SharedStream

/-- Reads the section headers of the segments as the only user of the stream.
A failure leaves no table. -/
def build (views : List View) (shared : SharedStream) : Building :=
  match shared.acquire with
  | .error failure => ⟨[], .error failure, shared⟩
  | .ok held =>
      let scan := Scan.segments views 0 held.stream
      let after := { held with stream := scan.stream }.release
      match scan.failure? with
      | some failure => ⟨scan.events, .error failure, after⟩
      | none =>
          ⟨scan.events ++ [.built scan.sections.length views.length],
            .ok ⟨scan.sections⟩, after⟩

def size (table : SectionTable) : Nat :=
  table.sections.length

def isEmpty (table : SectionTable) : Bool :=
  table.sections.isEmpty

def get? (table : SectionTable) (index : Nat) : Option Section :=
  table.sections[index]?

/-- Whether a section has the given names.  The names of the section end at
their first zero byte, and all of the given texts counts. -/
def isNamed (segmentName sectionName : String) (s : Section) : Bool :=
  s.segmentName.content = Text.Utf8.encode segmentName ∧
    s.sectionName.content = Text.Utf8.encode sectionName

def find? (table : SectionTable) (segmentName sectionName : String) :
    Option Nat :=
  table.sections.findIdx? (isNamed segmentName sectionName)

/-- Reads the part of the file that a section names as its contents. -/
def readContents (s : Section) (stream : Stream) :
    Except Error Bytes × Stream :=
  match stream.seek s.offset with
  | (.error failure, after) => (.error failure, after)
  | (.ok (), after) => after.read s.size

/-- The contents of a section, or none past the end of the table.  A
zero-fill section has no bytes in the file, and its stream may be in use. -/
def contents (table : SectionTable) (index : Nat) (shared : SharedStream) :
    Except Error (Option Bytes) × SharedStream :=
  match table.get? index with
  | none => (.ok none, shared)
  | some s =>
      if s.isZeroFill then (.ok (some []), shared)
      else
        let (result, after) := shared.exclusively (readContents s)
        (result.map some, after)

/-- The number of sections, and the name of each on a line. -/
def display (table : SectionTable) : String :=
  "Sections (" ++ toString table.size ++ "):\n" ++
    String.join (table.sections.map fun s => "  " ++ s.display ++ "\n")

def outline (style : Text.Outline.Style) (index : Nat) (s : Section) :
    Text.Outline.Lines :=
  Text.Outline.record style "SectionReference" [
    ("index", [toString index]),
    ("record", s.outline style)]

end SectionTable

end MachO
