import MachO.Log.Event
import MachO.Log.Pattern.Refusal
import MachO.Text.ByteCut

/-!
# Directives

A directive gives a level to some of the events.  Its full form is
`target[span{field=value}]=level`, of which every part may be missing: the
target is what the targets of its events begin with, the span is the activity
during which they happen, and the field is one that they have, perhaps with a
value that fits a pattern.  A directive without a level shows all events.

The program has no activities, and a value is only ever looked for in those.
So directives with a span or a value are read like all others and are for no
event at all.
-/

namespace MachO.Log

structure Condition where
  name : List Char
  value? : Option (List Char)
  deriving DecidableEq

/-- A level for some of the events: those of a rank up to `threshold` are
shown. -/
structure Directive where
  target : List Char
  span? : Option (List Char)
  condition? : Option Condition
  threshold : Nat
  deriving DecidableEq

inductive FilterError
  | unknownLevel
  | malformedDirective
  | pattern (refusal : Pattern.Refusal)
  /-- A part would end inside a character, and reading breaks off. -/
  | tornCharacter
  deriving DecidableEq

def FilterError.reasons : FilterError → List String
  | unknownLevel =>
      let reason :=
        "error parsing level filter: expected one of \"off\", \"error\", " ++
          "\"warn\", \"info\", \"debug\", \"trace\", or a number 0-5"
      [reason, reason]
  | malformedDirective => ["invalid filter directive"]
  | pattern refusal =>
      ("invalid field filter: " ++ refusal.reasons.headD "") :: refusal.reasons
  | tornCharacter => []

namespace Directive

/-- The words for levels, with the rank up to which each shows events. -/
def levelWords : List (List Char × Nat) := [
  ("off".toList, 0), ("error".toList, 1), ("warn".toList, 2),
  ("info".toList, 3), ("debug".toList, 4), ("trace".toList, 5)]

def all : Nat := 5

/-- The number that decimal digits stand for, after an optional plus sign. -/
def number? (chars : List Char) : Option Nat :=
  let digits := match chars with
    | '+' :: rest => rest
    | _ => chars
  if digits.isEmpty || !digits.all Char.isDigit then none
  else some (digits.foldl (fun value c => 10 * value + (c.toNat - 48)) 0)

/-- A level given by number or, in any case of the letters, by word. -/
def threshold? (chars : List Char) : Option Nat :=
  match number? chars with
  | some number => if number ≤ all then some number else none
  | none => levelWords.lookup (chars.map Char.toLower)

def canBegin (c : Char) : Bool :=
  c == '-' || c == ':' || c == '_' || Text.isAlphanumeric c

/-- A directive as it is read.  Its signs are looked for behind the blanks at
the front, and their places are counted in bytes from there; but its parts are
cut out at these places of the whole text. -/
structure Source where
  text : List Char
  deriving DecidableEq

namespace Source

/-- The part between two places, which must not lie inside of characters. -/
def part (source : Source) (first last : Nat) :
    Except FilterError (List Char) :=
  match Text.slice? source.text first last with
  | some chars => .ok chars
  | none => .error .tornCharacter

def partFrom (source : Source) (first : Nat) :
    Except FilterError (List Char) :=
  source.part first (Text.byteLength source.text)

def level (source : Source) (first : Nat) : Except FilterError Nat := do
  match ← source.partFrom first with
  | [] => .ok all
  | chars =>
      match threshold? chars with
      | some threshold => .ok threshold
      | none => .error .unknownLevel

/-- Reads on behind the brackets. -/
def afterBrackets (source : Source) (place : Nat) :
    List Char → Except FilterError Nat
  | [] => .ok all
  | '=' :: _ => source.level (place + 1)
  | _ => .error .malformedDirective

/-- Reads a field; a second equals sign ends its value. -/
def condition (chars : List Char) : Except FilterError Condition :=
  let name := chars.takeWhile (· ≠ '=')
  match chars.dropWhile (· ≠ '=') with
  | [] => .ok ⟨name, none⟩
  | _ :: rest =>
      let value := rest.takeWhile (· ≠ '=')
      match Pattern.valueRefusal? value with
      | some refusal => .error (.pattern refusal)
      | none => .ok ⟨name, some value⟩

def fromField (source : Source) (target : List Char)
    (span? : Option (List Char)) (place : Nat) (rest : List Char) :
    Except FilterError Directive := do
  let inside := rest.takeWhile (· ≠ '\x7d')
  let last := place + Text.byteLength inside
  match rest.dropWhile (· ≠ '\x7d') with
  | [] => .error .malformedDirective
  | _ :: behind =>
      let field ← source.part place last
      if field.isEmpty then .error .malformedDirective
      else
        let condition ← condition field
        match behind with
        | ']' :: tail =>
            let threshold ← source.afterBrackets (last + 2) tail
            .ok ⟨target, span?, some condition, threshold⟩
        | _ => .error .malformedDirective

def fromSpan (source : Source) (target : List Char) (place : Nat)
    (rest : List Char) : Except FilterError Directive := do
  let endsSpan (c : Char) : Bool := c == ']' || c == '\x7b'
  let inside := rest.takeWhile fun c => !endsSpan c
  let last := place + Text.byteLength inside
  match rest.dropWhile fun c => !endsSpan c with
  | [] => .error .malformedDirective
  | sign :: tail =>
      let span ← source.part place last
      if sign = ']' then
        let threshold ← source.afterBrackets (last + 1) tail
        .ok ⟨target, some span, none, threshold⟩
      else
        source.fromField target (if span.isEmpty then none else some span)
          (last + 1) tail

def fromTarget (source : Source) (inner : List Char) :
    Except FilterError Directive := do
  let endsTarget (c : Char) : Bool := c == '=' || c == '['
  let inside := inner.takeWhile fun c => !endsTarget c
  let last := Text.byteLength inside
  match inner.dropWhile fun c => !endsTarget c with
  | [] =>
      match threshold? source.text with
      | some threshold => .ok ⟨[], none, none, threshold⟩
      | none => .ok ⟨source.text, none, none, all⟩
  | sign :: tail =>
      let target ← source.part 0 last
      if sign = '=' then
        .ok ⟨target, none, none, ← source.level (last + 1)⟩
      else
        source.fromSpan target (last + 1) tail

end Source

def parse (chars : List Char) : Except FilterError Directive :=
  let source : Source := ⟨chars⟩
  match Text.trim chars with
  | [] => .error .malformedDirective
  | '[' :: rest => source.fromSpan [] 1 rest
  | first :: rest =>
      if canBegin first then source.fromTarget (first :: rest)
      else .error .malformedDirective

def isForEvents (directive : Directive) : Bool :=
  directive.span?.isNone &&
    directive.condition?.all fun condition => condition.value?.isNone

def fits (directive : Directive) (event : Event) : Bool :=
  directive.isForEvents &&
    directive.target.isPrefixOf event.target.toList &&
    directive.condition?.all fun condition =>
      event.fields.contains (String.ofList condition.name)

/-- Whether a directive is at least as narrow as another one that is for the
same event: its target is longer or, if it is the same, it does not lack a
condition that the other has. -/
def isAsNarrowAs (directive other : Directive) : Bool :=
  decide (other.target.length < directive.target.length) ||
    (directive.target.length == other.target.length &&
      (directive.condition?.isSome || other.condition?.isNone))

end Directive

end MachO.Log
