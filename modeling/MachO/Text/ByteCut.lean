/-!
# Cutting text at byte positions

A text cut at positions that count the bytes of its stored form.  A position
inside a character cuts nothing.
-/

namespace MachO.Text

def byteLength : List Char → Nat
  | [] => 0
  | c :: chars => c.utf8Size + byteLength chars

def takeBytes? : Nat → List Char → Option (List Char)
  | 0, _ => some []
  | _ + 1, [] => none
  | count + 1, c :: chars =>
      if c.utf8Size ≤ count + 1 then
        (takeBytes? (count + 1 - c.utf8Size) chars).map (c :: ·)
      else
        none

def dropBytes? : Nat → List Char → Option (List Char)
  | 0, chars => some chars
  | _ + 1, [] => none
  | count + 1, c :: chars =>
      if c.utf8Size ≤ count + 1 then
        dropBytes? (count + 1 - c.utf8Size) chars
      else
        none

def slice? (chars : List Char) (first last : Nat) : Option (List Char) :=
  (dropBytes? first chars).bind (takeBytes? (last - first))

end MachO.Text
