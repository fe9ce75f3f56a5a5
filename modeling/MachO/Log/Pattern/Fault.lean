/-!
# Faults of patterns

What can be wrong with a pattern, and in which words it is said.
-/

namespace MachO.Log.Pattern

def deepest : Nat := 250

inductive Fault
  | setEscape
  | rangeOrder
  | rangeBoundary
  | setUnclosed
  | decimalTooGreat
  | noCharacter
  | hexDigit
  | escapeEnd
  | escapeUnknown
  | negationDangling
  | negationRepeated
  | flagRepeated
  | flagEnd
  | flagUnknown
  | nameRepeated
  | nameEmpty
  | nameCharacter
  | nameEnd
  | groupUnclosed
  | groupUnopened
  | countEmpty
  | countUnclosed
  | nothingToRepeat
  | boundaryUnclosed
  | boundaryEnd
  | propertyInvalid
  | backreference
  | lookAround
  /-- Groups, sets and repetitions stand in too many others. -/
  | tooDeep
  /-- Bytes that are no text would fit the pattern. -/
  | notText
  | onlyBytes
  /-- There is no table for a property of characters. -/
  | propertyUnknown
  /-- There is no table for a class of characters. -/
  | classUnknown
  /-- There is no table of the letters that differ in case alone. -/
  | casesUnknown
  deriving DecidableEq

def Fault.message : Fault → String
  | setEscape => "invalid escape sequence found in character class"
  | rangeOrder =>
      "invalid character class range, the start must be <= the end"
  | rangeBoundary => "invalid range boundary, must be a literal"
  | setUnclosed => "unclosed character class"
  | decimalTooGreat => "decimal literal invalid"
  | noCharacter => "hexadecimal literal is not a Unicode scalar value"
  | hexDigit => "invalid hexadecimal digit"
  | escapeEnd =>
      "incomplete escape sequence, reached end of pattern prematurely"
  | escapeUnknown => "unrecognized escape sequence"
  | negationDangling => "dangling flag negation operator"
  | negationRepeated => "flag negation operator repeated"
  | flagRepeated => "duplicate flag"
  | flagEnd => "expected flag but got end of regex"
  | flagUnknown => "unrecognized flag"
  | nameRepeated => "duplicate capture group name"
  | nameEmpty => "empty capture group name"
  | nameCharacter => "invalid capture group character"
  | nameEnd => "unclosed capture group name"
  | groupUnclosed => "unclosed group"
  | groupUnopened => "unopened group"
  | countEmpty => "repetition quantifier expects a valid decimal"
  | countUnclosed => "unclosed counted repetition"
  | nothingToRepeat => "repetition operator missing expression"
  | boundaryUnclosed =>
      "special word boundary assertion is either unclosed or contains an " ++
        "invalid character"
  | boundaryEnd =>
      "found either the beginning of a special word boundary or a bounded " ++
        "repetition on a \\b with an opening brace, but no closing brace"
  | propertyInvalid => "invalid Unicode character class"
  | backreference => "backreferences are not supported"
  | lookAround =>
      "look-around, including look-ahead and look-behind, is not supported"
  | tooDeep =>
      "exceed the maximum number of nested parentheses/brackets " ++
        s!"({deepest})"
  | notText => "pattern can match invalid UTF-8"
  | onlyBytes => "Unicode not allowed here"
  | propertyUnknown => "Unicode property not found"
  | classUnknown =>
      "Unicode-aware Perl class not found (make sure the unicode-perl " ++
        "feature is enabled)"
  | casesUnknown =>
      "Unicode-aware case insensitivity matching is not available (make " ++
        "sure the unicode-case feature is enabled)"

end MachO.Log.Pattern
