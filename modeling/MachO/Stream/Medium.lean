import MachO.ByteOrder
import MachO.Error

/-!
# Media

A medium holds the bytes of an image and gives them out on request, at most so
many at a time.  It may refuse to be positioned, refuse to tell its position,
refuse positions past its end, and fail at a given position.

There are two ways to get a number of bytes from it.  `drain` asks until the
medium gives no more and leaves it to the caller to count; `fill` stops at the
first answer that leaves the request unfinished.
-/

namespace MachO

structure Medium where
  data : Bytes
  canSeek : Bool
  /-- Whether positions past the end are refused. -/
  bounded : Bool
  canTell : Bool
  /-- The position from which on nothing can be read. -/
  failAt? : Option Nat
  /-- The most bytes that one request gives; at least one is given. -/
  portion? : Option Nat
  deriving DecidableEq

namespace Medium

/-- Bytes in memory, without any of the restrictions. -/
def ofBytes (data : Bytes) : Medium :=
  ⟨data, true, false, true, none, none⟩

/-- Why the medium cannot be positioned there, if it cannot. -/
def seekFault? (medium : Medium) (position : Nat) : Option DeviceFault :=
  if !medium.canSeek then some .notSeekable
  else if medium.bounded ∧ medium.data.length < position then
    some .seekPastEnd
  else none

def failsAt (medium : Medium) (position : Nat) : Bool :=
  match medium.failAt? with
  | some limit => limit ≤ position
  | none => false

/-- How many bytes one request at a position gives at most. -/
def allowance (medium : Medium) (position wanted : Nat) : Nat :=
  let portion := match medium.portion? with
    | some portion => min wanted (max 1 portion)
    | none => wanted
  match medium.failAt? with
  | some limit => min portion (limit - position)
  | none => portion

/-- One request: a fault, or the bytes that come, none at the end. -/
def fetch (medium : Medium) (position wanted : Nat) :
    Except DeviceFault Bytes :=
  if medium.failsAt position then
    .error .readFailed
  else
    .ok ((medium.data.drop position).take (medium.allowance position wanted))

structure Drained where
  bytes : Bytes
  fault? : Option DeviceFault
  deriving DecidableEq

/-- Asks until all wanted bytes are there or the medium gives no more. -/
def drain (medium : Medium) (position wanted : Nat) : Drained :=
  if wanted = 0 then
    ⟨[], none⟩
  else
    match medium.fetch position wanted with
    | .error fault => ⟨[], some fault⟩
    | .ok given =>
        if given.length = 0 then
          ⟨[], none⟩
        else
          let rest :=
            drain medium (position + given.length) (wanted - given.length)
          ⟨given ++ rest.bytes, rest.fault?⟩
termination_by wanted

inductive Shortage
  | ended
  | broken (fault : DeviceFault)
  deriving DecidableEq

/-- Asks until all wanted bytes are there, behind those that are there
already; gives also the position reached. -/
def fill (medium : Medium) (position wanted : Nat) (filled : Bytes) :
    Except Shortage Bytes × Nat :=
  if wanted = 0 then
    (.ok filled, position)
  else
    match medium.fetch position wanted with
    | .error fault => (.error (.broken fault), position)
    | .ok given =>
        if given.length = 0 then
          (.error .ended, position)
        else
          fill medium (position + given.length) (wanted - given.length)
            (filled ++ given)
termination_by wanted

end Medium

end MachO
