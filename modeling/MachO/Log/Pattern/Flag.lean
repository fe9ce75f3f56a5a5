import MachO.Log.Pattern.Cursor

/-!
# Flags

A flag turns a way of reading on or off.  Flags stand together in parentheses
behind a question mark; those behind a minus sign are turned off.
-/

namespace MachO.Log.Pattern

inductive Flag
  | caseless
  | multiLine
  | dotAll
  | swapGreed
  | unicode
  | crlf
  | loose
  deriving DecidableEq

def Flag.ofChar? : Char → Option Flag
  | 'i' => some .caseless
  | 'm' => some .multiLine
  | 's' => some .dotAll
  | 'U' => some .swapGreed
  | 'u' => some .unicode
  | 'R' => some .crlf
  | 'x' => some .loose
  | _ => none

structure FlagItem where
  flag? : Option Flag
  span : Span
  deriving DecidableEq

/-- Reads flags up to the sign that ends them. -/
def readFlags : Nat → List Char → List FlagItem →
    Reading (List FlagItem × Char × Cursor)
  | place, [], _ => complain .flagEnd ⟨place, place⟩
  | place, c :: rest, items =>
      let span : Span := ⟨place, place + 1⟩
      if c = ':' ∨ c = ')' then
        match items.getLast? with
        | some ⟨none, negation⟩ => complain .negationDangling negation
        | _ => .ok (items, c, ⟨place + 1, rest⟩)
      else if c = '-' then
        match items.find? (·.flag? = none) with
        | some earlier =>
            .error ⟨.negationRepeated, span, some earlier.span⟩
        | none => readFlags (place + 1) rest (items ++ [⟨none, span⟩])
      else
        match Flag.ofChar? c with
        | none => complain .flagUnknown span
        | some flag =>
            match items.find? (·.flag? = some flag) with
            | some earlier => .error ⟨.flagRepeated, span, some earlier.span⟩
            | none =>
                readFlags (place + 1) rest (items ++ [⟨some flag, span⟩])

/-- Whether flags turn one on or off; nothing if they leave it as it is. -/
def Flag.state? (flag : Flag) (items : List FlagItem) : Option Bool :=
  let (on, off) := (items.map FlagItem.flag?).span Option.isSome
  if on.contains (some flag) then some true
  else if off.contains (some flag) then some false
  else none

end MachO.Log.Pattern
