import MachO.Log.Pattern.Complaint
import MachO.Text.Blank

/-!
# Places in patterns

A place in a pattern and the ways to go on from it.

A pattern is the value of a field in a directive, which ends at a comma, an
equals sign or a closing brace.  So none of these three occurs in a pattern,
and nothing that opens with a brace is ever closed.
-/

namespace MachO.Log.Pattern

/-- What is left of a pattern, and how many characters stand before it. -/
structure Cursor where
  place : Nat
  rest : List Char
  deriving DecidableEq

/-- The place behind blanks and comments.  A comment goes from a hash sign to
the end of its line. -/
def skipBlanks : Bool → Nat → List Char → Cursor
  | _, place, [] => ⟨place, []⟩
  | true, place, c :: rest => skipBlanks (c != '\n') (place + 1) rest
  | false, place, c :: rest =>
      if Text.isBlank c then skipBlanks false (place + 1) rest
      else if c = '#' then skipBlanks true (place + 1) rest
      else ⟨place, c :: rest⟩

namespace Cursor

def atEnd (cursor : Cursor) : Bool :=
  cursor.rest.isEmpty

def here (cursor : Cursor) : Span :=
  ⟨cursor.place, cursor.place⟩

/-- The part that the next character is. -/
def character (cursor : Cursor) : Span :=
  ⟨cursor.place, cursor.place + 1⟩

def since (cursor : Cursor) (first : Nat) : Span :=
  ⟨first, cursor.place⟩

def advance (cursor : Cursor) (count : Nat) : Cursor :=
  ⟨cursor.place + min count cursor.rest.length, cursor.rest.drop count⟩

/-- Passes over blanks and comments, where they have no meaning. -/
def skip (loose : Bool) (cursor : Cursor) : Cursor :=
  if loose then skipBlanks false cursor.place cursor.rest else cursor

def next (loose : Bool) (cursor : Cursor) : Cursor :=
  (cursor.advance 1).skip loose

/-- The first sign behind blanks, hash signs apart.  Behind a hash sign another
one is a sign as well, and the words of a comment are not passed over. -/
def firstSign? : Bool → List Char → Option Char
  | _, [] => none
  | hashed, c :: rest =>
      if Text.isBlank c then firstSign? hashed rest
      else if c = '#' && !hashed then firstSign? true rest
      else some c

def glance? (loose : Bool) (cursor : Cursor) : Option Char :=
  let behind := cursor.rest.drop 1
  if loose then (firstSign? false behind).or behind.head? else behind.head?

/-- The place behind a given text, if that comes next. -/
def behind? (cursor : Cursor) (text : String) : Option Cursor :=
  if text.toList.isPrefixOf cursor.rest then
    some (cursor.advance text.toList.length)
  else
    none

/-- Takes characters as long as they are wanted, at most `fuel` of them. -/
def gatherUpTo (loose : Bool) (wanted : Char → Bool) :
    Nat → Cursor → List Char × Cursor
  | 0, cursor => ([], cursor)
  | fuel + 1, cursor =>
      match cursor.rest with
      | [] => ([], cursor)
      | c :: _ =>
          if wanted c then
            let (chars, last) :=
              gatherUpTo loose wanted fuel (cursor.next loose)
            (c :: chars, last)
          else
            ([], cursor)

def gather (loose : Bool) (wanted : Char → Bool) (cursor : Cursor) :
    List Char × Cursor :=
  cursor.gatherUpTo loose wanted cursor.rest.length

end Cursor

abbrev Reading := Except Complaint

def complain {α : Type} (fault : Fault) (span : Span) : Reading α :=
  .error { fault, span }

end MachO.Log.Pattern
