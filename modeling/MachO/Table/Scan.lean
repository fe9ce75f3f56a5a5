import MachO.Log.Event
import MachO.Stream

/-!
# Scans

A scan reads the section headers behind each of a list of segments, in order,
into one list.  It ends at the first failure.  What it keeps of a run that
failed is only for its report: the events, and where the cursor stayed.
-/

namespace MachO

structure Scan where
  sections : List Section
  events : List Log.Event
  /-- Why it ended early, if it did. -/
  failure? : Option Error
  stream : Stream

namespace Scan

def empty (stream : Stream) : Scan :=
  ⟨[], [], none, stream⟩

def failed (failure : Error) (stream : Stream) : Scan :=
  ⟨[], [], some failure, stream⟩

/-- What came of a run and of the one after it. -/
def followedBy (first second : Scan) : Scan :=
  ⟨first.sections ++ second.sections, first.events ++ second.events,
    second.failure?, second.stream⟩

/-- Reads `count` headers at the cursor; the first one is the `index`-th of
the whole list. -/
def headers (width : Width) : (count index : Nat) → Stream → Scan
  | 0, _, stream => empty stream
  | count + 1, index, stream =>
      match stream.readSection width with
      | (.error failure, after) => failed failure after
      | (.ok header, after) =>
          let rest := headers width count (index + 1) after
          { rest with
            sections := header :: rest.sections
            events := .sectionRead index header :: rest.events }

def segment (view : View) (index : Nat) (stream : Stream) : Scan :=
  match view.width? with
  | none => failed (.unsupportedCommand view.command) stream
  | some width =>
      if addressableRange ≤ view.start then
        failed (.positionOverflow view.position view.headerSize) stream
      else
        let reading := Log.Event.reading view.sectionCount width view.start
        match stream.seek view.start with
        | (.error failure, after) => ⟨[], [reading], some failure, after⟩
        | (.ok (), after) =>
            let run := headers width view.sectionCount.toNat index after
            { run with events := reading :: run.events }

/-- Reads the headers of one segment after the other, when `index` headers
have been read already. -/
def segments : (views : List View) → (index : Nat) → Stream → Scan
  | [], _, stream => empty stream
  | view :: views, index, stream =>
      let first := segment view index stream
      match first.failure? with
      | some _ => first
      | none =>
          first.followedBy
            (segments views (index + first.sections.length) first.stream)

end Scan

end MachO
