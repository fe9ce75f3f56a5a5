import MachO.Text.Hex
import MachO.Text.Unprintable

/-!
# Quoted text

A text between double quotes.  A tab, a newline, a carriage return, a quote
and a backslash have short escapes, a character that cannot be shown is
written by its number, and every other character stands for itself.
-/

namespace MachO.Text.Quoted

/-- The form of one character between the quotes. -/
def escape (c : Char) : String :=
  match c with
  | '\x00' => "\\0"
  | '\t' => "\\t"
  | '\n' => "\\n"
  | '\r' => "\\r"
  | '"' => "\\\""
  | '\\' => "\\\\"
  | c =>
      if isUnprintable c then
        "\\u\x7b" ++ Hex.ofNat c.toNat ++ "\x7d"
      else
        c.toString

def encode (text : String) : String :=
  "\"" ++ String.join (text.toList.map escape) ++ "\""

end MachO.Text.Quoted
