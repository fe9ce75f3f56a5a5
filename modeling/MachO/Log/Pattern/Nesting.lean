import MachO.Log.Pattern.Tree

/-!
# Nesting of patterns

How deep the parts of a pattern stand one in the other.  The first part that
is too deep is complained of, and a part that holds no others is never.
-/

namespace MachO.Log.Pattern

/-- Goes into a part that stands in `depth` others. -/
def descend (span : Span) (depth : Nat) : Reading Unit :=
  if depth < deepest then .ok () else complain .tooDeep span

mutual

def CharSet.checkNesting (depth : Nat) : CharSet → Reading Unit
  | .bracketed span _ inner => do
      descend span depth
      inner.checkNesting (depth + 1)
  | .union span members => do
      descend span depth
      CharSet.checkNestings (depth + 1) members
  | .combined operation left right => do
      descend (CharSet.combined operation left right).span depth
      left.checkNesting (depth + 1)
      right.checkNesting (depth + 1)
  | _ => .ok ()

def CharSet.checkNestings (depth : Nat) : List CharSet → Reading Unit
  | [] => .ok ()
  | set :: others => do
      set.checkNesting depth
      CharSet.checkNestings depth others

end

mutual

def Tree.checkNesting (depth : Nat) : Tree → Reading Unit
  | .set chars => chars.checkNesting depth
  | .repetition span inner => do
      descend span depth
      inner.checkNesting (depth + 1)
  | .group span _ inner => do
      descend span depth
      inner.checkNesting (depth + 1)
  | .alternation span branches => do
      descend span depth
      Tree.checkNestings (depth + 1) branches
  | .sequence span members => do
      descend span depth
      Tree.checkNestings (depth + 1) members
  | _ => .ok ()

def Tree.checkNestings (depth : Nat) : List Tree → Reading Unit
  | [] => .ok ()
  | tree :: others => do
      tree.checkNesting depth
      Tree.checkNestings depth others

end

end MachO.Log.Pattern
