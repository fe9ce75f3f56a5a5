import MachO.Log.Pattern.SetReader
import MachO.Text.Numeric

/-!
# Reading patterns

A pattern is read from the left to its end, and the first fault of its form is
complained of.  What has been read of it stands in the groups that are still
open.
-/

namespace MachO.Log.Pattern

/-- What has been read of a group, or of the whole pattern. -/
structure Level where
  /-- Where it begins. -/
  first : Nat
  /-- The alternatives before the last bar, the last one first. -/
  branches : List Tree
  /-- Where the parts behind that bar begin. -/
  place : Nat
  /-- The parts from there on, the last one first. -/
  members : List Tree

namespace Level

def start (place : Nat) : Level :=
  ⟨place, [], place, []⟩

def add (level : Level) (member : Tree) : Level :=
  { level with members := member :: level.members }

def branch (level : Level) (last : Nat) : Tree :=
  .ofMembers ⟨level.place, last⟩ level.members

def alternate (level : Level) (bar : Nat) : Level :=
  ⟨level.first, level.branch bar :: level.branches, bar + 1, []⟩

def close (level : Level) (last : Nat) : Tree :=
  match level.branches with
  | [] => level.branch last
  | branches =>
      .alternation ⟨level.first, last⟩ (level.branch last :: branches).reverse

end Level

structure OpenGroup where
  span : Span
  items : List FlagItem
  outer : Level
  /-- Whether blanks have no meaning outside. -/
  loose : Bool

structure GroupName where
  name : List Char
  span : Span
  deriving DecidableEq

structure State where
  cursor : Cursor
  /-- Whether blanks and comments have no meaning. -/
  loose : Bool
  level : Level
  /-- The open groups, the innermost first. -/
  groups : List OpenGroup
  names : List GroupName

namespace State

def start (pattern : List Char) : State :=
  ⟨⟨0, pattern⟩, false, .start 0, [], []⟩

def take (s : State) (tree : Tree) (cursor : Cursor) : State :=
  { s with cursor, level := s.level.add tree }

/-! ## Groups -/

def enter (s : State) (cursor : Cursor) (items : List FlagItem) : State :=
  { s with
    cursor
    loose := (Flag.loose.state? items).getD s.loose
    level := .start cursor.place
    groups := ⟨s.cursor.character, items, s.level, s.loose⟩ :: s.groups }

def isNameCharacter (first : Bool) (c : Char) : Bool :=
  if first then c == '_' || Text.isAlphabetic c
  else "_.[]".toList.contains c || Text.isAlphanumeric c

def enterNamed (s : State) (cursor : Cursor) : Reading State := do
  let name := cursor.rest.takeWhile (· ≠ '>')
  let last := cursor.advance name.length
  let span := last.since cursor.place
  if cursor.atEnd then complain .nameEnd cursor.here
  let wrong? := (List.range name.length).find? fun index =>
    !(name[index]?.any (isNameCharacter (index == 0)))
  if let some index := wrong? then
    complain .nameCharacter (cursor.advance index).character
  if last.atEnd then complain .nameEnd last.here
  if name.isEmpty then complain .nameEmpty cursor.here
  match s.names.find? (·.name = name) with
  | some earlier => .error ⟨.nameRepeated, span, some earlier.span⟩
  | none =>
      .ok { s.enter (last.advance 1) [] with
        names := s.names ++ [⟨name, span⟩] }

/-- Reads flags, which hold up to the end of the group around them, or in a
group that they open. -/
def readFlagged (s : State) (first cursor : Cursor) : Reading State := do
  if cursor.atEnd then complain .groupUnclosed s.cursor.character
  let (items, sign, last) ← readFlags cursor.place cursor.rest []
  if sign = ':' then .ok (s.enter last items)
  else if items.isEmpty then complain .nothingToRepeat first.here
  else
    let loose := (Flag.loose.state? items).getD s.loose
    let flags := Tree.flags (last.since s.cursor.place) items
    .ok { s.take flags last with loose }

def openGroup (s : State) : Reading State :=
  let first := s.cursor.next s.loose
  match ["?=", "?!", "?<=", "?<!"].findSome? first.behind? with
  | some last => complain .lookAround (last.since s.cursor.place)
  | none =>
      match ["?P<", "?<"].findSome? first.behind? with
      | some cursor => s.enterNamed cursor
      | none =>
          match first.behind? "?" with
          | some cursor => s.readFlagged first cursor
          | none => .ok (s.enter first [])

def closeGroup (s : State) : Reading State :=
  match s.groups with
  | [] => complain .groupUnopened s.cursor.character
  | group :: groups =>
      let last := s.cursor.advance 1
      let tree := Tree.group (last.since group.span.first) group.items
        (s.level.close s.cursor.place)
      .ok { s with
        cursor := last
        loose := group.loose
        level := group.outer.add tree
        groups }

/-! ## Repetitions -/

/-- What a repetition repeats, with what stands before that. -/
def repeated (s : State) : Reading (Tree × List Tree) :=
  match s.level.members with
  | [] => complain .nothingToRepeat s.cursor.here
  | member :: others =>
      if member.isRepeatable then .ok (member, others)
      else complain .nothingToRepeat s.cursor.here

/-- Repeats what stands before, as seldom as can be if a question mark
follows. -/
def repeatLast (s : State) : Reading State := do
  let (member, others) ← s.repeated
  let after := s.cursor.advance 1
  let last := (after.behind? "?").getD after
  let tree := Tree.repetition (last.since member.span.first) member
  .ok { s with
    cursor := last, level := { s.level with members := tree :: others } }

def repeatCounted (s : State) : Reading State := do
  let _ ← s.repeated
  .error (readCount s.loose s.cursor)

/-! ## Patterns -/

def readPart (s : State) (c : Char) : Reading State := do
  let span := s.cursor.character
  let after := s.cursor.advance 1
  match c with
  | '\\' =>
      let (part, last) ← readEscape s.loose s.cursor
      .ok (s.take (.leaf part) last)
  | '.' => .ok (s.take (.leaf (.dot span)) after)
  | '^' => .ok (s.take (.leaf (.assertion span false)) after)
  | '$' => .ok (s.take (.leaf (.assertion span false)) after)
  | c => .ok (s.take (.leaf (.literal span c)) after)

def readNext (s : State) (c : Char) : Reading State := do
  match c with
  | '(' => s.openGroup
  | ')' => s.closeGroup
  | '|' =>
      .ok { s with
        cursor := s.cursor.advance 1
        level := s.level.alternate s.cursor.place }
  | '[' =>
      let (set, last) ← readSet s.loose s.cursor
      .ok (s.take (.set set) last)
  | '?' => s.repeatLast
  | '*' => s.repeatLast
  | '+' => s.repeatLast
  | '{' => s.repeatCounted
  | c => s.readPart c

def run : Nat → State → Reading State
  | 0, s => .ok s
  | fuel + 1, s =>
      let s := { s with cursor := s.cursor.skip s.loose }
      match s.cursor.rest with
      | [] => .ok s
      | c :: _ => (s.readNext c).bind (run fuel)

def finish (s : State) : Reading Tree :=
  match s.groups with
  | [] => .ok (s.level.close s.cursor.place)
  | group :: _ => complain .groupUnclosed group.span

end State

/-- Reads a pattern.  Each step takes a character at least. -/
def Tree.read (pattern : List Char) : Reading Tree := do
  (← (State.start pattern).run (pattern.length + 1)).finish

end MachO.Log.Pattern
