import MachO.Log.Pattern.Demand
import MachO.Log.Pattern.Nesting
import MachO.Log.Pattern.Reader

/-!
# Refusing patterns

A pattern is refused for a fault of its form, then for parts that stand too
deep in others, then for what it asks for in vain, and last for the ends of
words between characters beyond ASCII, which no automaton recognises.
-/

namespace MachO.Log.Pattern

inductive Refusal
  | fault (complaint : Complaint) (pattern : List Char)
  /-- It asks for word boundaries between characters beyond ASCII. -/
  | boundary
  deriving DecidableEq

def Refusal.reasons : Refusal → List String
  | fault complaint pattern =>
      ["error building NFA", "error parsing regex", complaint.display pattern]
  | boundary => [
      "unsupported regex feature for DFAs: cannot build DFAs for regexes " ++
        "with Unicode word boundaries; switch to ASCII word boundaries, or " ++
        "heuristically enable Unicode word boundaries or use a different " ++
        "regex engine"]

def refusal? (pattern : List Char) : Option Refusal :=
  let demand : Reading Demand := do
    let tree ← Tree.read pattern
    tree.checkNesting 0
    tree.demand .start
  match demand with
  | .error complaint => some (.fault complaint pattern)
  | .ok demand => if demand.onWords then some .boundary else none

/-! ## Values -/

def isDigits (chars : List Char) : Bool :=
  chars.all Char.isDigit

/-- Whether a text is a power of ten behind a decimal fraction. -/
def isExponent : List Char → Bool
  | [] => true
  | mark :: rest =>
      let digits := match rest with
        | '+' :: digits => digits
        | '-' :: digits => digits
        | _ => rest
      (mark == 'e' || mark == 'E') && !digits.isEmpty && isDigits digits

/-- Whether a text without a sign is a number: a decimal fraction, or one of
three words in any case of the letters. -/
def isMagnitude (chars : List Char) : Bool :=
  let whole := chars.takeWhile Char.isDigit
  let behind := chars.dropWhile Char.isDigit
  let fraction := match behind with
    | '.' :: rest => rest.takeWhile Char.isDigit
    | _ => []
  let last := match behind with
    | '.' :: rest => rest.dropWhile Char.isDigit
    | _ => behind
  ["inf", "infinity", "nan"].contains
      (String.ofList (chars.map Char.toLower)) ||
    ((!whole.isEmpty || !fraction.isEmpty) && isExponent last)

def isNumber : List Char → Bool
  | '+' :: rest => isMagnitude rest
  | '-' :: rest => isMagnitude rest
  | chars => isMagnitude chars

/-- Whether the value of a field is refused.  A number is a value of its own;
anything else is a pattern. -/
def valueRefusal? (value : List Char) : Option Refusal :=
  if isNumber value then none else refusal? value

end MachO.Log.Pattern
