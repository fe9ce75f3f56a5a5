import MachO.Text.CodeRuns

/-!
# Blanks

The characters with the white-space property.
-/

namespace MachO.Text

def blankRuns : CodeRuns := [
  (0x9, 0xd), (0x20, 0x20), (0x85, 0x85), (0xa0, 0xa0), (0x1680, 0x1680),
  (0x2000, 0x200a), (0x2028, 0x2029), (0x202f, 0x202f), (0x205f, 0x205f),
  (0x3000, 0x3000)]

example : blankRuns.size = 25 := by decide

def isBlank (c : Char) : Bool :=
  blankRuns.contains c

def trim (chars : List Char) : List Char :=
  ((chars.dropWhile isBlank).reverse.dropWhile isBlank).reverse

end MachO.Text
