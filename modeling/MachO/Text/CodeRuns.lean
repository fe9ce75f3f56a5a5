/-!
# Runs of code points

A set of characters, given by the first and last code point of each of its
runs.
-/

namespace MachO.Text

/-- Runs in ascending order, none of which touches the next. -/
abbrev CodeRuns := List (Nat × Nat)

namespace CodeRuns

def contains (runs : CodeRuns) (c : Char) : Bool :=
  runs.any fun run => decide (run.1 ≤ c.toNat ∧ c.toNat ≤ run.2)

def size (runs : CodeRuns) : Nat :=
  runs.foldr (fun run count => run.2 + 1 - run.1 + count) 0

end CodeRuns

end MachO.Text
