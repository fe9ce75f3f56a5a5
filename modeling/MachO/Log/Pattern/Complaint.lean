import MachO.Log.Pattern.Fault

/-!
# Complaints

A fault of a pattern and where it is.  The pattern is shown with marks under
the places that are meant.  A pattern of several lines is shown with their
numbers, and a place that spans lines is described below it.
-/

namespace MachO.Log.Pattern

/-- A part of a pattern: how many characters stand before it, and before what
follows it. -/
structure Span where
  first : Nat
  last : Nat
  deriving DecidableEq

structure Complaint where
  fault : Fault
  span : Span
  /-- The part further to the left that this one is at odds with. -/
  earlier? : Option Span := none
  deriving DecidableEq

/-! ## Lines -/

/-- The lines of a text without what ends them: a line feed, and a carriage
return before it. -/
def lines : List Char → List (List Char)
  | [] => []
  | c :: rest =>
      if c = '\n' then [] :: lines rest
      else if c = '\r' ∧ rest.head? = some '\n' then lines rest
      else
        match lines rest with
        | [] => [[c]]
        | line :: others => (c :: line) :: others

def lineCount (pattern : List Char) : Nat :=
  (lines pattern).length + if pattern.getLast? = some '\n' then 1 else 0

def lineAt (pattern : List Char) (place : Nat) : Nat :=
  (pattern.take place).count '\n'

def columnAt (pattern : List Char) (place : Nat) : Nat :=
  ((pattern.take place).reverse.takeWhile (· ≠ '\n')).length

/-! ## Marks -/

/-- Marks under a part of a line, of which `width` characters are marked
already.  An empty part has one mark. -/
def Span.marks (width : Nat) (span : Span) : List Char :=
  List.replicate (span.first - width) ' ' ++
    List.replicate (max 1 (span.last - span.first)) '^'

def marks (spans : List Span) : List Char :=
  spans.foldl (fun line span => line ++ span.marks line.length) []

/-- A part as it lies in its line. -/
def Span.inLine (pattern : List Char) (span : Span) : Span :=
  ⟨columnAt pattern span.first, columnAt pattern span.last⟩

def Span.isIn (pattern : List Char) (line : Nat) (span : Span) : Bool :=
  lineAt pattern span.first == line && lineAt pattern span.last == line

def Span.isInOneLine (pattern : List Char) (span : Span) : Bool :=
  span.isIn pattern (lineAt pattern span.first)

/-- Where a part begins and ends that spans lines. -/
def Span.note (pattern : List Char) (span : Span) : String :=
  let firstLine := lineAt pattern span.first + 1
  let firstColumn := columnAt pattern span.first + 1
  let lastLine := lineAt pattern span.last + 1
  let lastColumn := columnAt pattern span.last
  s!"on line {firstLine} (column {firstColumn}) through " ++
    s!"line {lastLine} (column {lastColumn})\n"

/-! ## Display -/

/-- What stands before a line: blanks, or its number if there are several. -/
def margin (count index : Nat) : String :=
  if count ≤ 1 then "    "
  else
    let number := toString (index + 1)
    "".pushn ' ' ((toString count).length - number.length) ++ number ++ ": "

def displayLine (pattern : List Char) (spans : List Span) (index : Nat)
    (line : List Char) : String :=
  let margin := margin (lineCount pattern) index
  let marked := (spans.filter (·.isIn pattern index)).map (·.inLine pattern)
  let below := if marked.isEmpty then "" else
    "".pushn ' ' margin.length ++ String.ofList (marks marked) ++ "\n"
  margin ++ String.ofList line ++ "\n" ++ below

def displayLines (pattern : List Char) (spans : List Span) : String :=
  String.join ((lines pattern).mapIdx (displayLine pattern spans))

def Complaint.display (complaint : Complaint) (pattern : List Char) : String :=
  let spans := complaint.earlier?.toList ++ [complaint.span]
  let shown := displayLines pattern spans
  let body :=
    if pattern.contains '\n' then
      let rule := "".pushn '~' 79 ++ "\n"
      let notes := (spans.filter fun span => !span.isInOneLine pattern).map
        (·.note pattern)
      rule ++ shown ++ rule ++ String.join notes
    else shown
  "regex parse error:\n" ++ body ++ "error: " ++ complaint.fault.message

end MachO.Log.Pattern
