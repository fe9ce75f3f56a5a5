import MachO.Image
import MachO.Proofs.Codec
import Mathlib.Tactic

/-!
# The area of the load commands

The load commands of an image are seen here from outside, by their offsets
into the whole image.  A command starts where the one before it ends by its
own account, and it may break one of three rules, which are tried in order.

A walk keeps a position of its own and the bytes that are left of the area.
The invariant is that these bytes are the window of the area that starts at
the position: from it, a walk takes exactly the commands before the first one
that breaks a rule, and reports that rule.
-/

namespace MachO

/-- So many load commands as the image announces, in the bytes from `first` to
`limit`. -/
structure CommandArea where
  bytes : Bytes
  order : ByteOrder
  first : Nat
  limit : Nat
  count : Nat

namespace CommandArea

variable (area : CommandArea)

def codeAt (offset : Nat) : UInt32 :=
  area.order.word32At area.bytes offset

def sizeAt (offset : Nat) : UInt32 :=
  area.order.word32At area.bytes (offset + 4)

/-- Where the `k`-th command starts. -/
def offset (area : CommandArea) : (k : Nat) → Nat
  | 0 => area.first
  | k + 1 => area.offset k + (area.sizeAt (area.offset k)).toNat

/-- The rule that a command at an offset breaks, if it breaks one. -/
def violation? (offset : Nat) : Option Malformation :=
  if area.limit < offset + 8 then
    some .commandHeader
  else if (area.sizeAt offset).toNat < 8 ∨
      area.limit < offset + (area.sizeAt offset).toNat then
    some .commandSize
  else if ∃ least,
      LoadCommand.structureSizes.lookup (area.codeAt offset) = some least ∧
        (area.sizeAt offset).toNat < least then
    some .structureSize
  else
    none

/-- The first `count` commands break no rule. -/
def Clear (count : Nat) : Prop :=
  ∀ k < count, area.violation? (area.offset k) = none

instance (count : Nat) : Decidable (area.Clear count) :=
  inferInstanceAs (Decidable (∀ k < count, _))

def segmentAt? (offset : Nat) : Option Segment :=
  match Width.ofSegmentCode? (area.codeAt offset) with
  | none => none
  | some width =>
      (Segment.decode area.order offset (area.bytes.drop offset) width).toOption

def commandAt (offset : Nat) : LoadCommand :=
  ⟨offset, area.codeAt offset, area.sizeAt offset, area.segmentAt? offset⟩

def commands (count : Nat) : List LoadCommand :=
  (List.range count).map fun k => area.commandAt (area.offset k)

/-- What a walk that has come to an offset has still before it. -/
def window (offset : Nat) : Bytes :=
  (area.bytes.drop offset).take (area.limit - offset)

variable {area}

theorem Clear.mono {count other : Nat} (hclear : area.Clear count)
    (hle : other ≤ count) : area.Clear other :=
  fun k hk => hclear k (by omega)

theorem commands_succ (count : Nat) :
    area.commands (count + 1) =
      area.commands count ++ [area.commandAt (area.offset count)] := by
  simp [commands, List.range_succ]

theorem clear_or_first_violation (count : Nat) :
    area.Clear count ∨ ∃ k < count, area.Clear k ∧
      ∃ rule, area.violation? (area.offset k) = some rule := by
  induction count with
  | zero => exact Or.inl fun k hk => absurd hk (by omega)
  | succ count ih =>
      rcases ih with hclear | ⟨k, hk, hfirst⟩
      · cases hviolation : area.violation? (area.offset count) with
        | none =>
            refine Or.inl fun k hk => ?_
            rcases Nat.lt_succ_iff_lt_or_eq.mp hk with hlt | rfl
            · exact hclear k hlt
            · exact hviolation
        | some rule =>
            exact Or.inr
              ⟨count, by omega, hclear, rule, hviolation⟩
      · exact Or.inr ⟨k, by omega, hfirst⟩

theorem rule_of_violation? {offset : Nat} {rule : Malformation}
    (hviolation : area.violation? offset = some rule) :
    rule = .commandHeader ∨ rule = .commandSize ∨ rule = .structureSize := by
  unfold violation? at hviolation
  split at hviolation
  · cases hviolation
    exact Or.inl rfl
  · split at hviolation
    · cases hviolation
      exact Or.inr (Or.inl rfl)
    · split at hviolation
      · cases hviolation
        exact Or.inr (Or.inr rfl)
      · cases hviolation

/-! ## What a command without a violation is -/

theorem bounds_of_violation?_eq_none {offset : Nat}
    (hnone : area.violation? offset = none) :
    8 ≤ (area.sizeAt offset).toNat ∧
      offset + (area.sizeAt offset).toNat ≤ area.limit := by
  unfold violation? at hnone
  split at hnone
  · cases hnone
  · split at hnone
    · cases hnone
    · omega

theorem structureSize_of_violation?_eq_none {offset least : Nat}
    (hnone : area.violation? offset = none)
    (hlookup : LoadCommand.structureSizes.lookup (area.codeAt offset) =
      some least) :
    least ≤ (area.sizeAt offset).toNat := by
  unfold violation? at hnone
  split at hnone
  · cases hnone
  · split at hnone
    · cases hnone
    · split at hnone
      · cases hnone
      · next hstructure =>
        by_contra hlt
        exact hstructure ⟨least, hlookup, by omega⟩

theorem lookup_segmentCode (width : Width) :
    LoadCommand.structureSizes.lookup width.segmentCode =
      some width.segmentHeaderSize := by
  cases width <;> rfl

theorem segmentHeaderSize_le_of_violation?_eq_none {offset : Nat}
    {width : Width} (hnone : area.violation? offset = none)
    (hwidth : Width.ofSegmentCode? (area.codeAt offset) = some width) :
    width.segmentHeaderSize ≤ (area.sizeAt offset).toNat := by
  apply structureSize_of_violation?_eq_none hnone
  rw [← Width.segmentCode_of_ofSegmentCode? hwidth]
  exact lookup_segmentCode width

theorem place_of_segmentAt? {offset : Nat} {segment : Segment}
    (hsegment : area.segmentAt? offset = some segment) :
    Width.ofSegmentCode? (area.codeAt offset) = some segment.width ∧
      segment.position = offset := by
  unfold segmentAt? at hsegment
  cases hwidth : Width.ofSegmentCode? (area.codeAt offset) with
  | none => simp [hwidth] at hsegment
  | some width =>
      simp only [hwidth] at hsegment
      cases hdecode : Segment.decode area.order offset
          (area.bytes.drop offset) width with
      | error mistake => simp [hdecode, Except.toOption] at hsegment
      | ok decoded =>
          simp only [hdecode, Except.toOption, Option.some.injEq] at hsegment
          subst hsegment
          obtain ⟨hposition, hform⟩ := Segment.place_of_decode hdecode
          exact ⟨by rw [hform], hposition⟩

/-! ## What a walk sees through its window -/

theorem length_window (hlimit : area.limit ≤ area.bytes.length)
    (offset : Nat) :
    (area.window offset).length = area.limit - offset := by
  rw [window, List.length_take, List.length_drop]
  omega

theorem drop_window (offset count : Nat) :
    (area.window offset).drop count = area.window (offset + count) := by
  rw [window, window, List.drop_take, List.drop_drop, Nat.sub_sub]

theorem word32At_window {offset index : Nat}
    (hindex : index + 4 ≤ area.limit - offset) :
    area.order.word32At (area.window offset) index =
      area.order.word32At area.bytes (offset + index) := by
  have hfour : min 4 (area.limit - (offset + index)) = 4 := by omega
  rw [ByteOrder.word32At, ByteOrder.word32At, drop_window, window,
    List.take_take, hfour]

theorem decode_window (hlimit : area.limit ≤ area.bytes.length)
    {offset : Nat} {width : Width}
    (hlength : offset + width.segmentHeaderSize ≤ area.limit) :
    Segment.decode area.order offset (area.window offset) width =
      Segment.decode area.order offset (area.bytes.drop offset) width := by
  apply Segment.decode_take
  · omega
  · rw [List.length_drop]
    omega

theorem exists_segmentAt? (hlimit : area.limit ≤ area.bytes.length)
    {offset : Nat} {width : Width}
    (hnone : area.violation? offset = none)
    (hwidth : Width.ofSegmentCode? (area.codeAt offset) = some width) :
    ∃ segment, area.segmentAt? offset = some segment ∧
      Segment.decode area.order offset (area.window offset) width =
        .ok segment := by
  have hbounds := bounds_of_violation?_eq_none hnone
  have hleast := segmentHeaderSize_le_of_violation?_eq_none hnone hwidth
  have hlength : width.segmentHeaderSize ≤ (area.window offset).length := by
    rw [length_window hlimit]
    omega
  obtain ⟨segment, hsegment⟩ :=
    Segment.exists_decode area.order offset hlength
  refine ⟨segment, ?_, hsegment⟩
  rw [decode_window hlimit (by omega)] at hsegment
  simp only [segmentAt?, hwidth, hsegment, Except.toOption]

theorem lt_structureSize_iff {code : UInt32} {size : Nat} (hsize : 8 ≤ size) :
    size < LoadCommand.structureSize code ↔
      ∃ least, LoadCommand.structureSizes.lookup code = some least ∧
        size < least := by
  unfold LoadCommand.structureSize LoadCommand.leastSize
  cases LoadCommand.structureSizes.lookup code with
  | none => simpa using hsize
  | some least => simp

/-- One step of a walk: the command at an offset, or the rule it breaks. -/
theorem read_window (hlimit : area.limit ≤ area.bytes.length)
    (offset : Nat) :
    LoadCommand.read area.order offset (area.window offset) =
      match area.violation? offset with
      | some rule => .error (.malformed rule)
      | none => .ok (area.commandAt offset) := by
  have hlength := length_window hlimit offset
  -- The rules are tried in the order in which a walk tries them; what a walk
  -- compares with the bytes that are left is compared with the limit here.
  unfold LoadCommand.read
  rw [hlength]
  by_cases hheader : area.limit < offset + 8
  · have hshort : area.limit - offset < LoadCommand.leastSize := by
      simp only [LoadCommand.leastSize]
      omega
    rw [if_pos hshort]
    simp only [violation?, if_pos hheader]
  · have henough : ¬ area.limit - offset < LoadCommand.leastSize := by
      simp only [LoadCommand.leastSize]
      omega
    have hcode : area.order.word32At (area.window offset) 0 =
        area.codeAt offset :=
      word32At_window (by omega)
    have hsize : area.order.word32At (area.window offset) 4 =
        area.sizeAt offset :=
      word32At_window (by omega)
    simp only [if_neg henough, hcode, hsize]
    by_cases hfit : (area.sizeAt offset).toNat < LoadCommand.leastSize ∨
        area.limit - offset < (area.sizeAt offset).toNat
    · have hviolation : area.violation? offset = some .commandSize := by
        simp only [LoadCommand.leastSize] at hfit
        rw [violation?, if_neg hheader, if_pos (by omega)]
      rw [if_pos hfit, hviolation]
    · have hfits : ¬ ((area.sizeAt offset).toNat < 8 ∨
          area.limit < offset + (area.sizeAt offset).toNat) := by
        simp only [LoadCommand.leastSize] at hfit
        omega
      rw [if_neg hfit]
      by_cases hstructure : (area.sizeAt offset).toNat <
          LoadCommand.structureSize (area.codeAt offset)
      · have hleast := (lt_structureSize_iff (by omega)).mp hstructure
        have hviolation : area.violation? offset = some .structureSize := by
          rw [violation?, if_neg hheader, if_neg hfits, if_pos hleast]
        rw [if_pos hstructure, hviolation]
      · have hleast :=
          mt (lt_structureSize_iff (by omega)).mpr hstructure
        have hnone : area.violation? offset = none := by
          rw [violation?, if_neg hheader, if_neg hfits, if_neg hleast]
        rw [if_neg hstructure, hnone]
        cases hwidth : Width.ofSegmentCode? (area.codeAt offset) with
        | none => simp only [commandAt, segmentAt?, hwidth]
        | some width =>
            obtain ⟨segment, hsegment, hdecode⟩ :=
              exists_segmentAt? hlimit hnone hwidth
            simp only [hdecode, commandAt, hsegment]

/-! ## Walks -/

theorem run_of_violation (hlimit : area.limit ≤ area.bytes.length)
    {offset : Nat} {rule : Malformation}
    (hviolation : area.violation? offset = some rule) (rest : Nat) :
    Walk.run area.order (rest + 1) offset (area.window offset) =
      ⟨[], some (.malformed rule)⟩ := by
  simp only [Walk.run, read_window hlimit, hviolation]

theorem run_of_violation?_eq_none (hlimit : area.limit ≤ area.bytes.length)
    (hrange : area.limit < addressableRange) {k : Nat}
    (hnone : area.violation? (area.offset k) = none) (rest : Nat) :
    Walk.run area.order (rest + 1) (area.offset k)
        (area.window (area.offset k)) =
      let later := Walk.run area.order rest (area.offset (k + 1))
        (area.window (area.offset (k + 1)))
      ⟨area.commandAt (area.offset k) :: later.commands, later.failure?⟩ := by
  have hbounds := bounds_of_violation?_eq_none hnone
  have hnext : area.offset k +
      (area.commandAt (area.offset k)).size.toNat = area.offset (k + 1) :=
    rfl
  -- The positions stay inside the area, far below the end of the range.
  have hin : ¬ addressableRange ≤ area.offset (k + 1) := by
    simp only [offset]
    omega
  simp only [Walk.run, read_window hlimit, hnone, drop_window, hnext,
    if_neg hin]

/-- A walk takes the commands that break no rule and goes on behind them. -/
theorem run_of_clear (hlimit : area.limit ≤ area.bytes.length)
    (hrange : area.limit < addressableRange) {count : Nat}
    (hclear : area.Clear count) (rest : Nat) :
    Walk.run area.order (count + rest) area.first (area.window area.first) =
      let later := Walk.run area.order rest (area.offset count)
        (area.window (area.offset count))
      ⟨area.commands count ++ later.commands, later.failure?⟩ := by
  induction count generalizing rest with
  | zero => simp [commands, offset]
  | succ count ih =>
      have hnone := hclear count (by omega)
      rw [show count + 1 + rest = count + (rest + 1) by omega,
        ih (hclear.mono (by omega)) (rest + 1),
        run_of_violation?_eq_none hlimit hrange hnone, commands_succ]
      simp only [List.append_assoc, List.singleton_append]

theorem run_eq_commands (hlimit : area.limit ≤ area.bytes.length)
    (hrange : area.limit < addressableRange) {count : Nat}
    (hclear : area.Clear count) :
    Walk.run area.order count area.first (area.window area.first) =
      ⟨area.commands count, none⟩ := by
  have hrun := run_of_clear hlimit hrange hclear 0
  simpa only [Nat.add_zero, Walk.run, List.append_nil] using hrun

/-- A walk ends at the first command that breaks a rule. -/
theorem run_eq_failure (hlimit : area.limit ≤ area.bytes.length)
    (hrange : area.limit < addressableRange) {count k : Nat}
    {rule : Malformation} (hk : k < count) (hclear : area.Clear k)
    (hviolation : area.violation? (area.offset k) = some rule) :
    Walk.run area.order count area.first (area.window area.first) =
      ⟨area.commands k, some (.malformed rule)⟩ := by
  have hrun := run_of_clear hlimit hrange hclear (count - k - 1 + 1)
  rw [run_of_violation hlimit hviolation] at hrun
  rw [show count = k + (count - k - 1 + 1) by omega, hrun]
  simp only [List.append_nil]

end CommandArea

end MachO
