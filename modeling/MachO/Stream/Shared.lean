import MachO.Stream

/-!
# Shared streams

A stream has one cursor, so whoever seeks and then reads must be its only user
meanwhile.  A shared stream has a lock for that, and nobody waits for it: an
operation that finds it taken fails at once.  The lock is given back whether
the operation succeeds or not.
-/

namespace MachO

structure SharedStream where
  stream : Stream
  locked : Bool
  deriving DecidableEq

namespace SharedStream

def ofStream (stream : Stream) : SharedStream :=
  ⟨stream, false⟩

/-- Takes the lock for one operation.  A lock is poisoned when its holder
breaks off.  Such a lock is recovered, with the cursor where the holder left
it, so a poisoned lock and a free one are one case here and no flag tells them
apart. -/
def acquire (shared : SharedStream) : Except Error SharedStream :=
  if shared.locked then .error .handleInUse
  else .ok { shared with locked := true }

def release (shared : SharedStream) : SharedStream :=
  { shared with locked := false }

def within {α : Type} (shared : SharedStream)
    (operation : Stream → Except Error α × Stream) :
    Except Error α × SharedStream :=
  let (result, after) := operation shared.stream
  (result, { shared with stream := after })

def exclusively {α : Type} (shared : SharedStream)
    (operation : Stream → Except Error α × Stream) :
    Except Error α × SharedStream :=
  match shared.acquire with
  | .error failure => (.error failure, shared)
  | .ok held =>
      let (result, after) := held.within operation
      (result, after.release)

end SharedStream

end MachO
