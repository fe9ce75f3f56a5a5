import MachO.LoadCommand
import MachO.Log.Event

/-!
# Images

An image starts with a magic word that tells its form and its byte order, a
header that says how many load commands there are and how many bytes they
take, and the load commands.  Reading an image gives its segments, in order,
or the first rule that it breaks; either way the events tell what was seen on
the way.
-/

namespace MachO

structure Magic where
  order : ByteOrder
  width : Width
  deriving DecidableEq

namespace Magic

/-- The magic words as they are read with the least significant byte first. -/
def ofWord? (word : UInt32) : Option Magic :=
  if word = 0xfeedface then some ⟨.little, .bits32⟩
  else if word = 0xcefaedfe then some ⟨.big, .bits32⟩
  else if word = 0xfeedfacf then some ⟨.little, .bits64⟩
  else if word = 0xcffaedfe then some ⟨.big, .bits64⟩
  else none

def detect (word : UInt32) : Except Error Magic :=
  match ofWord? word with
  | some magic => .ok magic
  | none => .error (.badMagic word)

/-- The byte order that is meant by a flag which says whether the most
significant byte comes first.  Both orders are at hand. -/
def orderOf? (mostSignificantFirst : Bool) : Option ByteOrder :=
  if mostSignificantFirst then some .big else some .little

/-- The byte order of a header of the given form, by its own magic word, read
with the most significant byte first. -/
def headerOrder (width : Width) (word : UInt32) :
    Except Malformation ByteOrder :=
  if word ≠ width.magicWord ∧ word ≠ width.swappedMagicWord then
    .error .unsupportedHeader
  else
    match orderOf? (word = width.magicWord) with
    | none => .error .unsupportedOrder
    | some order => .ok order

end Magic

structure Header where
  magic : Magic
  commandCount : UInt32
  commandsSize : UInt32
  deriving DecidableEq

namespace Header

def size (header : Header) : Nat :=
  header.magic.width.imageHeaderSize

def area (header : Header) (bytes : Bytes) : Bytes :=
  (bytes.drop header.size).take header.commandsSize.toNat

/-- The header of an image of the given form, if it and the area behind it
are whole. -/
def readAs (width : Width) (bytes : Bytes) : Except Error Header :=
  if bytes.length < width.imageHeaderSize then
    .error (.malformed .header)
  else
    match Magic.headerOrder width (ByteOrder.big.word32At bytes 0) with
    | .error rule => .error (.malformed rule)
    | .ok order =>
        let header : Header :=
          ⟨⟨order, width⟩, order.word32At bytes 16, order.word32At bytes 20⟩
        if bytes.length < header.size + header.commandsSize.toNat then
          .error (.malformed .commandTable)
        else
          .ok header

/-- The header at the front of an image.  Its first word, read with the least
significant byte first, tells the form; the header itself tells the rest. -/
def read (bytes : Bytes) : Except Error Header :=
  if bytes.length < 4 then
    .error (.shortRead 0 4)
  else
    match Magic.detect (ByteOrder.little.word32At bytes 0) with
    | .error failure => .error failure
    | .ok magic => readAs magic.width bytes

def walk (header : Header) (bytes : Bytes) : Walk :=
  Walk.run header.magic.order header.commandCount.toNat header.size
    (header.area bytes)

end Header

structure Image where
  order : ByteOrder
  width : Width
  segments : List Segment
  deriving DecidableEq

/-- How an image was read: what was reported, and what came out. -/
structure Image.Reading where
  events : List Log.Event
  result : Except Error Image

def LoadCommand.event (command : LoadCommand) : Log.Event :=
  match command.segment? with
  | some segment => .segment segment
  | none => .skipped command.code command.position

namespace Image

def read (bytes : Bytes) : Reading :=
  match Header.read bytes with
  | .error failure => ⟨[], .error failure⟩
  | .ok header =>
      let walk := header.walk bytes
      let events := walk.commands.map LoadCommand.event
      match walk.failure? with
      | some failure => ⟨events, .error failure⟩
      | none =>
          let image : Image :=
            ⟨header.magic.order, header.magic.width, walk.segments⟩
          ⟨events ++ [.image image.order image.width image.segments.length],
            .ok image⟩

def parse (bytes : Bytes) : Except Error Image :=
  (read bytes).result

end Image

end MachO
