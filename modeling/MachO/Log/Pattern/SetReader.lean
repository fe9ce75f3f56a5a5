import MachO.Log.Pattern.Tree

/-!
# Reading sets of characters

A set stands in brackets, and sets may stand in others.  Between two operators
stand the members of an operand; operators bind to the left, all alike.
-/

namespace MachO.Log.Pattern

structure OpenSet where
  /-- The bracket that opens it, up to its first member. -/
  span : Span
  negated : Bool
  /-- What stands before the last operator. -/
  left? : Option (SetOperation × CharSet)
  /-- Where the members behind that operator begin. -/
  place : Nat
  /-- The members from there on, the last one first. -/
  members : List CharSet

namespace OpenSet

def content (set : OpenSet) : CharSet :=
  let right := CharSet.ofMembers set.place set.members
  match set.left? with
  | none => right
  | some (operation, left) => .combined operation left right

def add (set : OpenSet) (member : CharSet) : OpenSet :=
  { set with members := member :: set.members }

def operate (set : OpenSet) (operation : SetOperation) (place : Nat) :
    OpenSet :=
  { set with left? := some (operation, set.content), place, members := [] }

def unclosed {α : Type} (set : OpenSet) : Reading α :=
  complain .setUnclosed set.span

end OpenSet

/-! ## Opening -/

/-- Takes the signs with which a set may begin and which stand for themselves,
at most `fuel` of them, into the members. -/
def readDashes (loose : Bool) (start : Nat) :
    Nat → Cursor → List CharSet → Reading (List CharSet × Cursor)
  | 0, cursor, members => .ok (members, cursor)
  | fuel + 1, cursor, members =>
      match cursor.rest with
      | '-' :: _ =>
          let after := cursor.next loose
          let dash := CharSet.member (.literal cursor.character '-')
          if after.atEnd then complain .setUnclosed ⟨start, start⟩
          else readDashes loose start fuel after (dash :: members)
      | _ => .ok (members, cursor)

/-- Opens a set, at whose bracket the cursor is. -/
def OpenSet.start (loose : Bool) (cursor : Cursor) :
    Reading (OpenSet × Cursor) := do
  let first := cursor.next loose
  if first.atEnd then complain .setUnclosed (first.since cursor.place)
  let negated := first.rest.head? == some '^'
  let begin := if negated then first.next loose else first
  if begin.atEnd then complain .setUnclosed (begin.since cursor.place)
  let (dashes, behind) ←
    readDashes loose cursor.place begin.rest.length begin []
  let opened (members : List CharSet) (last : Cursor) : OpenSet × Cursor :=
    (⟨last.since cursor.place, negated, none, begin.place, members⟩, last)
  if dashes.isEmpty && begin.rest.head? == some ']' then
    let last := begin.next loose
    if last.atEnd then complain .setUnclosed (last.since cursor.place)
    .ok (opened [.member (.literal begin.character ']')] last)
  else
    .ok (opened dashes behind)

/-! ## Members -/

def asciiSets : List String := [
  "alnum", "alpha", "ascii", "blank", "cntrl", "digit", "graph", "lower",
  "print", "punct", "space", "upper", "word", "xdigit"]

/-- A set of ASCII characters that has a name, with the place behind it. -/
def asciiSet? (cursor : Cursor) : Option (CharSet × Cursor) := do
  let opened ← cursor.behind? "[:"
  let negated := (opened.behind? "^").isSome
  let begin := (opened.behind? "^").getD opened
  let name := begin.rest.takeWhile (· ≠ ':')
  let last ← (begin.advance name.length).behind? ":]"
  if asciiSets.contains (String.ofList name) then
    some (.named (last.since cursor.place) negated, last)
  else
    none

def OpenSet.readPart (set : OpenSet) (loose : Bool) (cursor : Cursor) :
    Reading (Part × Cursor) :=
  match cursor.rest with
  | '\\' :: _ => readEscape loose cursor
  | c :: _ => .ok (.literal cursor.character c, cursor.advance 1)
  | [] => set.unclosed

def CharSet.ofPart (part : Part) : Reading CharSet :=
  match part with
  | .assertion span _ => complain .setEscape span
  | part => .ok (.member part)

def CharSet.between (least greatest : Part) : Reading CharSet :=
  match least.char?, greatest.char? with
  | none, _ => complain .rangeBoundary least.span
  | _, none => complain .rangeBoundary greatest.span
  | some low, some high =>
      let range := CharSet.range least greatest
      if high < low then complain .rangeOrder range.span else .ok range

/-- Reads a member, or a range of them.  A dash before the end of the set or
before another dash stands for no range. -/
def OpenSet.readMember (set : OpenSet) (loose : Bool) (cursor : Cursor) :
    Reading (CharSet × Cursor) := do
  let (part, after) ← set.readPart loose cursor
  let last := after.skip loose
  if last.atEnd then set.unclosed
  let sign? := last.glance? loose
  if last.rest.head? ≠ some '-' ∨ sign? = some ']' ∨ sign? = some '-' then
    .ok (← CharSet.ofPart part, last)
  else
    let bound := last.next loose
    if bound.atEnd then set.unclosed
    let (greatest, behind) ← set.readPart loose bound
    .ok (← CharSet.between part greatest, behind)

/-! ## Sets -/

def setOperation? (cursor : Cursor) : Option (SetOperation × Cursor) :=
  let signs := [
    (SetOperation.intersection, "&&"), (SetOperation.difference, "--"),
    (SetOperation.symmetricDifference, "~~")]
  signs.findSome? fun (operation, sign) =>
    (cursor.behind? sign).map fun last => (operation, last)

/-- Reads on in a set, which stands in others, in at most `fuel` steps. -/
def OpenSet.read (loose : Bool) :
    Nat → OpenSet → List OpenSet → Cursor → Reading (CharSet × Cursor)
  | 0, set, _, _ => set.unclosed
  | fuel + 1, set, others, cursor =>
      let cursor := cursor.skip loose
      match cursor.rest with
      | [] => set.unclosed
      | '[' :: _ =>
          match asciiSet? cursor with
          | some (member, last) =>
              OpenSet.read loose fuel (set.add member) others last
          | none => do
              let (inner, last) ← OpenSet.start loose cursor
              OpenSet.read loose fuel inner (set :: others) last
      | ']' :: _ =>
          let last := cursor.advance 1
          let closed := CharSet.bracketed (last.since set.span.first)
            set.negated set.content
          match others with
          | [] => .ok (closed, last)
          | outer :: others =>
              OpenSet.read loose fuel (outer.add closed) others last
      | _ =>
          match setOperation? cursor with
          | some (operation, last) =>
              OpenSet.read loose fuel (set.operate operation last.place)
                others last
          | none => do
              let (member, last) ← set.readMember loose cursor
              OpenSet.read loose fuel (set.add member) others last

/-- Reads a set, at whose bracket the cursor is.  Each step takes a character
at least. -/
def readSet (loose : Bool) (cursor : Cursor) : Reading (CharSet × Cursor) := do
  let (set, last) ← OpenSet.start loose cursor
  set.read loose (last.rest.length + 1) [] last

end MachO.Log.Pattern
