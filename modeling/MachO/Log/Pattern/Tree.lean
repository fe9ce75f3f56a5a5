import MachO.Log.Pattern.Flag
import MachO.Log.Pattern.Part

/-!
# Trees of patterns

A pattern as it is put together: sets of characters from their members, and
the pattern from sets, groups and repetitions, one beside and one within the
other.
-/

namespace MachO.Log.Pattern

/-! ## Sets -/

inductive SetOperation
  | intersection
  | difference
  | symmetricDifference
  deriving DecidableEq

inductive CharSet
  | empty (span : Span)
  | member (part : Part)
  | range (least greatest : Part)
  | named (span : Span) (negated : Bool)
  | bracketed (span : Span) (negated : Bool) (inner : CharSet)
  | union (span : Span) (members : List CharSet)
  | combined (operation : SetOperation) (left right : CharSet)

def CharSet.span : CharSet → Span
  | empty span => span
  | member part => part.span
  | range least greatest => ⟨least.span.first, greatest.span.last⟩
  | named span _ => span
  | bracketed span _ _ => span
  | union span _ => span
  | combined _ left right => ⟨left.span.first, right.span.last⟩

/-- A set of all members of some sets, which are given from the last to the
first and stand behind a place. -/
def CharSet.ofMembers (place : Nat) (members : List CharSet) : CharSet :=
  match members, members.getLast? with
  | [], _ => .empty ⟨place, place⟩
  | [one], _ => one
  | last :: _, first? =>
      let span : Span :=
        ⟨(first?.map (·.span.first)).getD place, last.span.last⟩
      .union span members.reverse

/-! ## Patterns -/

inductive Tree
  | empty (span : Span)
  | flags (span : Span) (items : List FlagItem)
  | leaf (part : Part)
  | set (chars : CharSet)
  | repetition (span : Span) (inner : Tree)
  | group (span : Span) (items : List FlagItem) (inner : Tree)
  | alternation (span : Span) (branches : List Tree)
  | sequence (span : Span) (members : List Tree)

namespace Tree

def span : Tree → Span
  | empty span => span
  | flags span _ => span
  | leaf part => part.span
  | set chars => chars.span
  | repetition span _ => span
  | group span _ _ => span
  | alternation span _ => span
  | sequence span _ => span

/-- Whether a repetition can stand behind it. -/
def isRepeatable : Tree → Bool
  | empty _ => false
  | flags _ _ => false
  | _ => true

/-- Patterns one behind the other, given from the last to the first. -/
def ofMembers (span : Span) (members : List Tree) : Tree :=
  match members with
  | [] => .empty span
  | [one] => one
  | members => .sequence span members.reverse

end Tree

end MachO.Log.Pattern
