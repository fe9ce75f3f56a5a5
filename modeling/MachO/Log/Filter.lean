import MachO.Log.Directive

/-!
# Log filters

A filter is written as directives between commas.  Of the directives that fit
an event, the one with the longest target decides; of those with the same
target, one that asks for a field goes before one that does not, and else the
later one decides.  An event that no directive fits is not shown.
-/

namespace MachO.Log

abbrev Filter := List Directive

namespace Filter

def pieces (chars : List Char) : List (List Char) :=
  chars.foldr
    (fun c cut =>
      if c = ',' then [] :: cut
      else match cut with
        | [] => [[c]]
        | piece :: rest => (c :: piece) :: rest)
    [[]]

/-- What is shown without any directive: errors alone. -/
def errorsAlone : Filter :=
  [⟨[], none, none, Level.error.rank⟩]

def parse (text : String) : Except FilterError Filter :=
  match ((pieces text.toList).filter fun piece => !piece.isEmpty).mapM
      Directive.parse with
  | .error failure => .error failure
  | .ok [] => .ok errorsAlone
  | .ok directives => .ok directives

def decisive? (filter : Filter) (event : Event) : Option Directive :=
  filter.foldl
    (fun best directive =>
      if !directive.fits event then best
      else match best with
        | none => some directive
        | some other =>
            if directive.isAsNarrowAs other then some directive else best)
    none

def shows (filter : Filter) (event : Event) : Bool :=
  match filter.decisive? event with
  | some directive => event.level.rank ≤ directive.threshold
  | none => false

end Filter

end MachO.Log
