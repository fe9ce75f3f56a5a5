import MachO.Section.Codec
import MachO.Stream.Medium

/-!
# Streams

A stream is a medium with the byte order of its image and one cursor.  An
operation gives its result and the stream that it leaves; one that fails
leaves the cursor where it stopped.
-/

namespace MachO

structure Stream where
  medium : Medium
  order : ByteOrder
  cursor : Nat
  deriving DecidableEq

namespace Stream

def start (order : ByteOrder) (medium : Medium) : Stream :=
  ⟨medium, order, 0⟩

def seek (stream : Stream) (position : Nat) : Except Error Unit × Stream :=
  match stream.medium.seekFault? position with
  | some fault => (.error (.seekFailure position fault), stream)
  | none => (.ok (), { stream with cursor := position })

def tell (stream : Stream) : Except Error Nat :=
  if stream.medium.canTell then .ok stream.cursor
  else .error (.positionUnknown .positionUnknown)

/-- Reads so many bytes.  The size of the request is not trusted: only what is
there is taken. -/
def read (stream : Stream) (count : Nat) : Except Error Bytes × Stream :=
  match stream.tell with
  | .error failure => (.error failure, stream)
  | .ok position =>
      let drained := stream.medium.drain position count
      let after := { stream with cursor := position + drained.bytes.length }
      match drained.fault? with
      | some fault => (.error (.readFailure position fault), after)
      | none =>
          if drained.bytes.length < count then
            (.error (.shortRead position count), after)
          else
            (.ok drained.bytes, after)

def readSection (stream : Stream) (width : Width) :
    Except Error Section × Stream :=
  match stream.tell with
  | .error failure => (.error failure, stream)
  | .ok position =>
      let (filled, reached) :=
        stream.medium.fill position width.sectionHeaderSize []
      let after := { stream with cursor := reached }
      match filled with
      | .error .ended =>
          (.error (.shortRead position width.sectionHeaderSize), after)
      | .error (.broken fault) => (.error (.readFailure position fault), after)
      | .ok bytes =>
          match Section.decode stream.order bytes width with
          | .error mistake => (.error (.defect mistake), after)
          | .ok header => (.ok header, after)

end Stream

end MachO
