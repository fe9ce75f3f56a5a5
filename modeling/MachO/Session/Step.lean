import MachO.Session.State

/-!
# Steps of a session

A step names what it works on by number and is answered at once.  A step that
fails changes neither the locks nor what has been made; at most the cursor of
its own stream has moved.

Steps that read a stream through a slot use the lock that the slot holds, or
else take the lock for their own time.  Building a table and reading contents
always take the lock themselves, so they fail even for the slot that holds it.
-/

namespace MachO

/-- A request to a session.  Numbers stand for slots, tables, images and
references. -/
inductive Step
  /-- Starts a stream and makes its first user. -/
  | start (order : ByteOrder) (medium : Medium)
  /-- Makes another user of the same stream. -/
  | share (slot : Nat)
  | sameStream (slot other : Nat)
  | hold (slot : Nat)
  | drop (slot : Nat)
  /-- Takes the lock, moves the cursor and breaks off there. -/
  | breakOff (slot position : Nat)
  | byteOrder (slot : Nat)
  | seek (slot position : Nat)
  | tell (slot : Nat)
  | read (slot count : Nat)
  | readSection (slot : Nat) (width : Width)
  | parse (bytes : Bytes)
  | build (slot : Nat) (views : List View)
  | buildImage (slot image : Nat)
  | size (table : Nat)
  | names (table : Nat)
  | display (table : Nat)
  | get (table index : Nat)
  | contents (table index : Nat)
  /-- Makes a user of the stream that a table was read from. -/
  | shareSource (table : Nat)
  | refer (table index : Nat)
  | find (table : Nat) (segmentName sectionName : String)
  | sameReference (reference other : Nat)
  | outline (reference : Nat) (style : Text.Outline.Style)

inductive Answer
  | done
  | failed (failure : Error)
  /-- A number in the request stands for nothing. -/
  | unknown
  | slot (number : Nat)
  | truth (value : Bool)
  | order (order : ByteOrder)
  | position (position : Nat)
  | bytes (bytes : Bytes)
  | header (s : Section)
  /-- An image, its number, and which images so far are equal to it. -/
  | image (image : Image) (number : Nat) (equal : List Bool)
  /-- The number of a table, and whether its stream is that of the slot. -/
  | table (number : Nat) (table : SectionTable) (sameStream : Bool)
  | size (size : Nat) (isEmpty : Bool)
  | names (names : List String)
  | text (text : String)
  | reference (index : Nat) (s : Section)
  deriving DecidableEq

namespace Answer

def ofResult {α : Type} (answer : α → Answer) : Except Error α → Answer
  | .ok value => answer value
  | .error failure => failed failure

def ofFound {α : Type} (answer : α → Answer) : Option α → Answer
  | some value => answer value
  | none => done

end Answer

namespace Session

/-- Runs an operation for a slot, under the lock that it holds or else as the
only user. -/
def operate {α : Type} (session : Session) (number : Nat)
    (operation : Stream → Except Error α × Stream) (answer : α → Answer) :
    Answer × Session :=
  match session.slot? number with
  | none => (.unknown, session)
  | some (slot, shared) =>
      let (result, after) :=
        if slot.holds then shared.within operation
        else shared.exclusively operation
      (Answer.ofResult answer result, session.replaceStream slot.stream after)

def hold (session : Session) (number : Nat) : Answer × Session :=
  match session.slot? number with
  | none => (.unknown, session)
  | some (slot, shared) =>
      match shared.acquire with
      | .error failure => (.failed failure, session)
      | .ok held =>
          (.done, (session.replaceStream slot.stream held).replaceSlot number
            { slot with holds := true })

def drop (session : Session) (number : Nat) : Answer × Session :=
  match session.slot? number with
  | none => (.unknown, session)
  | some (slot, shared) =>
      if slot.holds then
        (.done, (session.replaceStream slot.stream shared.release).replaceSlot
          number { slot with holds := false })
      else
        (.done, session)

/-- Takes the lock, moves the cursor and breaks off, which poisons the lock.
Whoever takes it next recovers it, so it counts as given back. -/
def breakOff (session : Session) (number position : Nat) : Answer × Session :=
  match session.slot? number with
  | none => (.unknown, session)
  | some (slot, shared) =>
      let (result, after) := shared.exclusively (·.seek position)
      (Answer.ofResult (fun () => .done) result,
        session.replaceStream slot.stream after)

def parse (session : Session) (bytes : Bytes) : Answer × Session :=
  match Image.parse bytes with
  | .error failure => (.failed failure, session)
  | .ok image =>
      let images := session.images ++ [image]
      (.image image session.images.length (images.map (decide <| · = image)),
        { session with images })

def build (session : Session) (number : Nat) (views : List View) :
    Answer × Session :=
  match session.slot? number with
  | none => (.unknown, session)
  | some (slot, shared) =>
      let building := SectionTable.build views shared
      let after := session.replaceStream slot.stream building.shared
      match building.result with
      | .error failure => (.failed failure, after)
      | .ok table =>
          let sourced : SourcedTable := ⟨slot.stream, table⟩
          (.table session.tables.length table (sourced.stream = slot.stream),
            { after with tables := session.tables ++ [sourced] })

def contents (session : Session) (number index : Nat) : Answer × Session :=
  match session.table? number with
  | none => (.unknown, session)
  | some (sourced, shared) =>
      let (result, after) := sourced.table.contents index shared
      (Answer.ofResult (Answer.ofFound Answer.bytes) result,
        session.replaceStream sourced.stream after)

/-- Looks a section up; one that is found becomes a reference. -/
def lookUp (session : Session) (number : Nat)
    (place : SectionTable → Option Nat) : Answer × Session :=
  match session.tables[number]? with
  | none => (.unknown, session)
  | some sourced =>
      match place sourced.table with
      | none => (.done, session)
      | some index =>
          match sourced.table.get? index with
          | none => (.done, session)
          | some s =>
              (.reference index s,
                { session with
                  references := session.references ++ [⟨number, index⟩] })

/-- Answers from a table, which is not changed. -/
def consult (session : Session) (number : Nat)
    (answer : SectionTable → Answer) : Answer × Session :=
  match session.tables[number]? with
  | none => (.unknown, session)
  | some sourced => (answer sourced.table, session)

def step (session : Session) : Step → Answer × Session
  | .start order medium =>
      let number := session.streams.length
      (.slot session.slots.length,
        { session with
          streams := session.streams ++ [.ofStream (.start order medium)]
          slots := session.slots ++ [⟨number, false⟩] })
  | .share slot =>
      match session.slots[slot]? with
      | none => (.unknown, session)
      | some shared =>
          (.slot session.slots.length, session.addSlot ⟨shared.stream, false⟩)
  | .sameStream slot other =>
      match session.slots[slot]?, session.slots[other]? with
      | some first, some second =>
          (.truth (first.stream = second.stream), session)
      | _, _ => (.unknown, session)
  | .hold slot => session.hold slot
  | .drop slot => session.drop slot
  | .breakOff slot position => session.breakOff slot position
  | .byteOrder slot =>
      session.operate slot (fun stream => (.ok stream.order, stream)) .order
  | .seek slot position =>
      session.operate slot (·.seek position) fun () => .done
  | .tell slot =>
      session.operate slot (fun stream => (stream.tell, stream)) .position
  | .read slot count => session.operate slot (·.read count) .bytes
  | .readSection slot width =>
      session.operate slot (·.readSection width) .header
  | .parse bytes => session.parse bytes
  | .build slot views => session.build slot views
  | .buildImage slot image =>
      match session.images[image]? with
      | none => (.unknown, session)
      | some image => session.build slot (image.segments.map Segment.view)
  | .size table =>
      session.consult table fun table => .size table.size table.isEmpty
  | .names table =>
      session.consult table fun table => .names (table.sections.map Section.name)
  | .display table => session.consult table fun table => .text table.display
  | .get table index =>
      session.consult table fun table =>
        Answer.ofFound Answer.header (table.get? index)
  | .contents table index => session.contents table index
  | .shareSource table =>
      match session.tables[table]? with
      | none => (.unknown, session)
      | some sourced =>
          (.slot session.slots.length, session.addSlot ⟨sourced.stream, false⟩)
  | .refer table index => session.lookUp table fun _ => some index
  | .find table segmentName sectionName =>
      session.lookUp table (·.find? segmentName sectionName)
  | .sameReference reference other =>
      match session.references[reference]?, session.references[other]? with
      | some first, some second => (.truth (first = second), session)
      | _, _ => (.unknown, session)
  | .outline reference style =>
      match session.references[reference]? with
      | none => (.unknown, session)
      | some reference =>
          match session.resolve? reference with
          | none => (.unknown, session)
          | some s =>
              (.text (Text.Outline.toText
                (SectionTable.outline style reference.index s)), session)

def run (session : Session) : List Step → List Answer × Session
  | [] => ([], session)
  | step :: steps =>
      let (answer, after) := session.step step
      let (answers, last) := after.run steps
      (answer :: answers, last)

end Session

end MachO
