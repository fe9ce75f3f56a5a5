import MachO.Log.Pattern.Cursor

/-!
# Parts

The smallest parts of patterns: characters, escapes, and the counts of
repetitions.
-/

namespace MachO.Log.Pattern

inductive Part
  | literal (span : Span) (char : Char)
  /-- A character given by two digits, which may stand for a byte. -/
  | byte (span : Span) (char : Char)
  | dot (span : Span)
  | assertion (span : Span) (onWords : Bool)
  | classLetter (span : Span) (negated : Bool)
  | property (span : Span)
  deriving DecidableEq

def Part.span : Part → Span
  | literal span _ => span
  | byte span _ => span
  | dot span => span
  | assertion span _ => span
  | classLetter span _ => span
  | property span => span

/-- The character that a part stands for, if it stands for one alone. -/
def Part.char? : Part → Option Char
  | literal _ char => some char
  | byte _ char => some char
  | _ => none

def hexValue? (c : Char) : Option Nat :=
  if '0' ≤ c ∧ c ≤ '9' then some (c.toNat - 48)
  else if 'a' ≤ c ∧ c ≤ 'f' then some (c.toNat - 87)
  else if 'A' ≤ c ∧ c ≤ 'F' then some (c.toNat - 55)
  else none

/-- Reads hexadecimal digits, of which `count` are still to come behind the
next one. -/
def readHexDigits (loose : Bool) : Nat → Nat → Cursor → Reading (Nat × Cursor)
  | count, value, cursor =>
      match cursor.rest with
      | [] => complain .escapeEnd cursor.here
      | c :: _ =>
          match hexValue? c with
          | none => complain .hexDigit cursor.character
          | some digit =>
              let value := 16 * value + digit
              let after := cursor.next loose
              match count with
              | 0 => .ok (value, after)
              | count + 1 => readHexDigits loose count value after

def isCharacterCode (code : Nat) : Bool :=
  decide (code < 0xD800 ∨ 0xDFFF < code ∧ code < 0x110000)

/-- Reads a character by its number; `start` is the place of the backslash,
and `digits` how many digits belong to the letter at the cursor. -/
def readHex (loose : Bool) (start digits : Nat) (cursor : Cursor) :
    Reading (Part × Cursor) := do
  let cursor := cursor.next loose
  match cursor.rest with
  | [] => complain .escapeEnd cursor.here
  | '{' :: _ =>
      let (_, last) := (cursor.next loose).gather loose (hexValue? · |>.isSome)
      if last.atEnd then complain .escapeEnd (last.since cursor.place)
      else complain .hexDigit last.character
  | _ =>
      let (value, last) ← readHexDigits loose (digits - 1) 0 cursor
      if isCharacterCode value then
        let span := last.since start
        let char := Char.ofNat value
        .ok (if digits = 2 then .byte span char else .literal span char, last)
      else
        complain .noCharacter (last.since cursor.place)

/-- Reads a property of characters, which one letter names. -/
def readProperty (loose : Bool) (start : Nat) (cursor : Cursor) :
    Reading (Part × Cursor) :=
  let cursor := cursor.next loose
  match cursor.rest with
  | [] => complain .escapeEnd cursor.here
  | '{' :: _ =>
      complain .escapeEnd (cursor.gather loose fun _ => true).2.here
  | '\\' :: _ => complain .propertyInvalid cursor.character
  | _ =>
      let last := cursor.next loose
      .ok (.property (last.since start), last)

def isMeta (c : Char) : Bool :=
  "\\.+*?()|[]\x7b\x7d^$#&-~".toList.contains c

def isEscapable (c : Char) : Bool :=
  isMeta c || (c.toNat < 0x80 && !c.isAlphanum && c != '<' && c != '>')

/-- The characters that a letter behind a backslash stands for. -/
def letterEscape? : Char → Option Char
  | 'a' => some '\x07'
  | 'f' => some '\x0c'
  | 't' => some '\t'
  | 'n' => some '\n'
  | 'r' => some '\r'
  | 'v' => some '\x0b'
  | _ => none

def isBoundaryLetter (c : Char) : Bool :=
  c.isAlpha || c == '-'

/-- Reads on behind a word boundary.  A brace and a letter open the name of a
special one, which is never closed; any other brace is left to be read as a
repetition. -/
def readBoundary (loose : Bool) (start : Nat) (cursor : Cursor) :
    Reading (Part × Cursor) :=
  let plain := (Part.assertion (cursor.since start) true, cursor)
  match cursor.rest with
  | '{' :: _ =>
      let inner := cursor.next loose
      match inner.rest with
      | [] => complain .boundaryEnd (inner.since start)
      | c :: _ =>
          if isBoundaryLetter c then
            let last := (inner.gather loose isBoundaryLetter).2
            complain .boundaryUnclosed (last.since cursor.place)
          else
            .ok plain
  | _ => .ok plain

/-- Reads an escape, at whose backslash the cursor is. -/
def readEscape (loose : Bool) (cursor : Cursor) :
    Reading (Part × Cursor) :=
  let start := cursor.place
  let letter := cursor.advance 1
  match letter.rest with
  | [] => complain .escapeEnd (letter.since start)
  | c :: _ =>
      let last := letter.advance 1
      let span := last.since start
      if c.isDigit then complain .backreference span
      else if c = 'x' then readHex loose start 2 letter
      else if c = 'u' then readHex loose start 4 letter
      else if c = 'U' then readHex loose start 8 letter
      else if c = 'p' ∨ c = 'P' then readProperty loose start letter
      else if c = 'd' ∨ c = 's' ∨ c = 'w' then .ok (.classLetter span false, last)
      else if c = 'D' ∨ c = 'S' ∨ c = 'W' then .ok (.classLetter span true, last)
      else if isEscapable c then .ok (.literal span c, last)
      else
        match letterEscape? c with
        | some char => .ok (.literal span char, last)
        | none =>
            if c = 'A' ∨ c = 'z' then .ok (.assertion span false, last)
            else if c = 'b' then readBoundary loose start last
            else if c = 'B' ∨ c = '<' ∨ c = '>' then
              .ok (.assertion span true, last)
            else complain .escapeUnknown span

/-- Reads the count of a repetition, at whose brace the cursor is.  It is
never closed, so there is always something to complain of. -/
def readCount (loose : Bool) (cursor : Cursor) : Complaint :=
  let first := cursor.next loose
  let digitsBegin := (first.gather false Text.isBlank).2
  let (digits, digitsEnd) := digitsBegin.gather loose Char.isDigit
  let last := (digitsEnd.gather loose Text.isBlank).2
  let unclosed : Complaint :=
    { fault := .countUnclosed, span := last.since cursor.place }
  let span := digitsEnd.since digitsBegin.place
  if last.atEnd then unclosed
  else if digits.isEmpty then { fault := .countEmpty, span }
  else if
      digits.foldl (fun n c => 10 * n + (c.toNat - 48)) 0 < 0x100000000 then
    unclosed
  else
    { fault := .decimalTooGreat, span }

end MachO.Log.Pattern
