import MachO.Log.Pattern.Tree

/-!
# What patterns ask for

Some parts of patterns ask for tables of characters that there are not, or
stand for bytes that are no text.  Which do depends on the flags that hold
where they stand.
-/

namespace MachO.Log.Pattern

/-- How the parts of a pattern are understood. -/
structure Mode where
  /-- Letters stand for their other case, too. -/
  caseless : Bool
  /-- The pattern is about characters, not bytes. -/
  unicode : Bool
  deriving DecidableEq

namespace Mode

def standard : Mode :=
  ⟨false, true⟩

def under (mode : Mode) (items : List FlagItem) : Mode :=
  ⟨(Flag.caseless.state? items).getD mode.caseless,
    (Flag.unicode.state? items).getD mode.unicode⟩

/-- What a part outside of sets asks for. -/
def allow (mode : Mode) : Part → Reading Unit
  | .literal span _ =>
      if mode.unicode && mode.caseless then complain .casesUnknown span
      else .ok ()
  | .byte span char =>
      if mode.unicode && mode.caseless then complain .casesUnknown span
      else if !mode.unicode && 0x80 ≤ char.toNat then complain .notText span
      else .ok ()
  | .dot span => if mode.unicode then .ok () else complain .notText span
  | .assertion .. => .ok ()
  | .classLetter span negated =>
      if mode.unicode then complain .classUnknown span
      else if negated then complain .notText span
      else .ok ()
  | .property span =>
      complain (if mode.unicode then .propertyUnknown else .onlyBytes) span

/-- What a member of a set asks for.  The other case of a letter is asked of
the whole set. -/
def allowInSet (mode : Mode) : Part → Reading Unit
  | .literal span char =>
      if mode.unicode || char.toNat < 0x80 then .ok ()
      else complain .onlyBytes span
  | .byte span char =>
      if mode.unicode || char.toNat < 0x80 then .ok ()
      else complain .notText span
  | part => mode.allow part

end Mode

/-! ## Sets -/

/-- How many of all characters are in a set. -/
inductive Extent
  | none
  | some
  | all
  deriving DecidableEq

def Extent.complement : Extent → Extent
  | none => all
  | some => some
  | all => none

structure Coverage where
  extent : Extent
  /-- Whether the other case of its letters is known to be in it.  Without a
  table this is known of sets that come from the empty one alone. -/
  closed : Bool
  deriving DecidableEq

namespace Coverage

def none : Coverage :=
  ⟨.none, true⟩

/-- A set that is given by its characters. -/
def some : Coverage :=
  ⟨.some, false⟩

/-- All characters between two of them. -/
def between (least greatest : Part) : Coverage :=
  if least.char?.map Char.toNat = Option.some 0 ∧
      greatest.char?.map Char.toNat = Option.some 0x10FFFF then
    ⟨.all, false⟩
  else
    some

def complement (coverage : Coverage) : Coverage :=
  { coverage with extent := coverage.extent.complement }

/-- Adds a set to another one; what adds nothing leaves it as it is. -/
def union (coverage other : Coverage) : Coverage :=
  match coverage.extent, other.extent with
  | _, .none => coverage
  | .none, _ => other
  | .all, .all => coverage
  | _, _ => some

def apply (operation : SetOperation) (left right : Coverage) : Coverage :=
  match operation, left.extent, right.extent with
  | .intersection, .none, _ => none
  | .intersection, _, .none => none
  | .intersection, .all, .all => left
  | .difference, .none, _ => none
  | .difference, _, .none => left
  | .difference, .all, .all => none
  | .symmetricDifference, _, .none => left
  | .symmetricDifference, .none, _ => right
  | .symmetricDifference, .all, .all => none
  | _, _, _ => some

end Coverage

/-- Adds the other case of letters to a set, whose part this is. -/
def Mode.addCases (mode : Mode) (span : Span) (coverage : Coverage) :
    Reading Unit :=
  if mode.unicode && mode.caseless && !coverage.closed then
    complain .casesUnknown span
  else .ok ()

/-- Completes a set: adds the other case of letters, and negates it. -/
def Mode.complete (mode : Mode) (span : Span) (negated : Bool)
    (coverage : Coverage) : Reading Coverage := do
  mode.addCases span coverage
  if negated then
    if mode.unicode then .ok coverage.complement else complain .notText span
  else .ok coverage

mutual

/-- Which characters are in a set, if it asks for nothing that there is
not. -/
def CharSet.coverage (mode : Mode) : CharSet → Reading Coverage
  | .empty _ => .ok .none
  | .member part => do
      mode.allowInSet part
      .ok .some
  | .range least greatest => do
      mode.allowInSet least
      mode.allowInSet greatest
      .ok (.between least greatest)
  | .named span negated => mode.complete span negated .some
  | .bracketed span negated inner => do
      mode.complete span negated (← inner.coverage mode)
  | .union _ members => CharSet.coverages mode .none members
  | .combined operation left right => do
      let leftCoverage ← left.coverage mode
      let rightCoverage ← right.coverage mode
      mode.addCases right.span rightCoverage
      mode.addCases left.span leftCoverage
      .ok (leftCoverage.apply operation rightCoverage)

/-- Which characters are in one of the sets, besides given ones. -/
def CharSet.coverages (mode : Mode) (coverage : Coverage) :
    List CharSet → Reading Coverage
  | [] => .ok coverage
  | set :: others => do
      let more ← set.coverage mode
      CharSet.coverages mode (coverage.union more) others

end

/-! ## Patterns -/

structure Demand where
  mode : Mode
  /-- Whether it asks for the ends of words of any characters. -/
  onWords : Bool
  deriving DecidableEq

def Demand.start : Demand :=
  ⟨.standard, false⟩

mutual

/-- Goes on behind a pattern, if it asks for nothing that there is not. -/
def Tree.demand (demand : Demand) : Tree → Reading Demand
  | .empty _ => .ok demand
  | .flags _ items => .ok { demand with mode := demand.mode.under items }
  | .leaf part => do
      demand.mode.allow part
      match part with
      | .assertion _ true =>
          .ok { demand with onWords := demand.onWords || demand.mode.unicode }
      | _ => .ok demand
  | .set chars => do
      let _ ← chars.coverage demand.mode
      .ok demand
  | .repetition _ inner => inner.demand demand
  | .group _ items inner => do
      let last ← inner.demand { demand with mode := demand.mode.under items }
      .ok { last with mode := demand.mode }
  | .alternation _ branches => Tree.demands demand branches
  | .sequence _ members => Tree.demands demand members

/-- Goes on behind patterns, from the first to the last. -/
def Tree.demands (demand : Demand) : List Tree → Reading Demand
  | [] => .ok demand
  | tree :: others => do
      let demand ← tree.demand demand
      Tree.demands demand others

end

end MachO.Log.Pattern
