/-!
# Defects

Conditions that a correct caller never brings about.  They are kept apart from
the errors that bad input causes: reading an image, building a table and
looking up sections are to be shown free of them.
-/

namespace MachO

inductive Defect
  /-- A field was read or written against the width that its table gives. -/
  | outOfStep
  /-- A field was read where too few bytes were left. -/
  | exhausted
  /-- A position went past the 64-bit range. -/
  | positionRange
  /-- A row label went past the 64-bit range. -/
  | labelRange
  deriving DecidableEq

/-- The end of the 64-bit range. -/
def addressableRange : Nat := 0x10000000000000000

end MachO
