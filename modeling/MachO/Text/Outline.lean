/-!
# Outlines

The text of a value with its parts named, as `Name { a: 1, b: 2 }`, on one
line or with each part on a line of its own.  A text is a list of lines, so
that an inner text can be indented as a whole.
-/

namespace MachO.Text.Outline

/-- Whether the parts stay on one line. -/
inductive Style
  | inline
  | spread
  deriving DecidableEq

abbrev Lines := List String

/-- Puts a text behind the last line. -/
def close (lines : Lines) (ending : String) : Lines :=
  match lines with
  | [] => [ending]
  | [last] => [last ++ ending]
  | line :: rest => line :: close rest ending

/-- Puts a text before the first line. -/
def label (name : String) : Lines → Lines
  | [] => [name]
  | first :: rest => (name ++ first) :: rest

/-- Moves a part to the right, and sets it off from the next one. -/
def part (lines : Lines) : Lines :=
  (close lines ",").map ("    " ++ ·)

def toText (lines : Lines) : String :=
  "\n".intercalate lines

def record (style : Style) (name : String) (parts : List (String × Lines)) :
    Lines :=
  let named := parts.map fun (key, lines) => label (key ++ ": ") lines
  match style with
  | .inline =>
      [name ++ " \x7b " ++ ", ".intercalate (named.map toText) ++ " \x7d"]
  | .spread => (name ++ " \x7b") :: named.flatMap part ++ ["\x7d"]

/-- A value with one part that has no name. -/
def wrapped (style : Style) (name : String) (inner : Lines) : Lines :=
  match style with
  | .inline => [name ++ "(" ++ toText inner ++ ")"]
  | .spread => (name ++ "(") :: part inner ++ [")"]

end MachO.Text.Outline
