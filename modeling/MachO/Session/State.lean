import MachO.Image
import MachO.Table

/-!
# Sessions

A session holds streams that several users share, and what was read from them.
Everything is known by a number, given out in the order in which the things of
a kind are made, and nothing is ever taken away.

A slot is one user of a stream.  It may hold the lock of its stream over
several steps.
-/

namespace MachO

/-- A user of a stream, by the stream's number. -/
structure Slot where
  stream : Nat
  /-- Whether this user holds the lock of the stream. -/
  holds : Bool
  deriving DecidableEq

/-- A table, and the number of the stream it was read from. -/
structure SourcedTable where
  stream : Nat
  table : SectionTable
  deriving DecidableEq

/-- A section that was looked up, by the number of the table and its index
there. -/
structure Reference where
  table : Nat
  index : Nat
  deriving DecidableEq

structure Session where
  streams : List SharedStream
  slots : List Slot
  tables : List SourcedTable
  images : List Image
  references : List Reference
  deriving DecidableEq

namespace Session

def empty : Session :=
  ⟨[], [], [], [], []⟩

def replaceStream (session : Session) (number : Nat) (shared : SharedStream) :
    Session :=
  { session with streams := session.streams.set number shared }

def replaceSlot (session : Session) (number : Nat) (slot : Slot) : Session :=
  { session with slots := session.slots.set number slot }

def addSlot (session : Session) (slot : Slot) : Session :=
  { session with slots := session.slots ++ [slot] }

def slot? (session : Session) (number : Nat) : Option (Slot × SharedStream) :=
  (session.slots[number]?).bind fun slot =>
    (session.streams[slot.stream]?).map (slot, ·)

def table? (session : Session) (number : Nat) :
    Option (SourcedTable × SharedStream) :=
  (session.tables[number]?).bind fun table =>
    (session.streams[table.stream]?).map (table, ·)

/-- The section that a reference stands for. -/
def resolve? (session : Session) (reference : Reference) : Option Section :=
  (session.tables[reference.table]?).bind (·.table.get? reference.index)

end Session

end MachO
