import MachO.Log.Event

/-!
# Log lines

An event as a line of the log.  Characters by which a message could steer the
terminal that shows it are written by their numbers.
-/

namespace MachO.Log

/-- Escape, bell, backspace, form feed and delete. -/
def terminalControls : List Char :=
  ['\x1b', '\x07', '\x08', '\x0c', '\x7f']

/-- The form of a character in a log line.  The controls from U+80 to U+9F
steer some terminals as well. -/
def inLine (c : Char) : String :=
  if terminalControls.contains c then
    "\\x" ++ Text.Hex.padded 2 c.toNat
  else if 0x80 ≤ c.toNat ∧ c.toNat ≤ 0x9f then
    "\\u\x7b" ++ Text.Hex.ofNat c.toNat ++ "\x7d"
  else
    c.toString

def Event.line (event : Event) : String :=
  event.level.label ++ " " ++ event.target ++ ": " ++
    String.join (event.message.toList.map inLine) ++ "\n"

end MachO.Log
