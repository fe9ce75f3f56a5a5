import MachO.Proofs.Ranges
import MachO.Proofs.Trace

/-!
# Claimed counts

The header of an image claims a number of load commands, and every segment a
number of section headers.  Neither number is trusted, and neither can make the
results larger than the bytes allow.

A walk pays for every command that it takes with bytes of the area: with the
fixed part of the command, if it is a segment, and with two words otherwise.
The bytes that are left of the area carry this through the walk.  An array of
section headers must lie inside the bytes as a whole, but arrays may overlap, so
the bound on all section headers is taken for each segment on its own.
-/

namespace MachO

/-! ## What commands take of their area -/

namespace LoadCommand

/-- The bytes that a command takes at least. -/
def share (command : LoadCommand) : Nat :=
  match command.segment? with
  | none => leastSize
  | some segment => segment.headerSize

theorem Checked.share_le {order : ByteOrder} {position : Nat} {area : Bytes}
    {command : LoadCommand}
    (hchecked : Checked order position area command) :
    command.share ≤ command.size.toNat := by
  rcases hchecked.segment_cases with
    hnone | ⟨width, segment, hwidth, hdecode, hsome⟩
  · simp only [share, hnone]
    exact hchecked.leastSize_le
  · have hform := (Segment.place_of_decode hdecode).2
    have hcode := Width.segmentCode_of_ofSegmentCode? hwidth
    have hstructure := hchecked.structureSize_le
    rw [← hcode, structureSize, CommandArea.lookup_segmentCode] at hstructure
    simp only [share, hsome, Segment.headerSize, hform]
    exact hstructure

theorem leastSize_le_share (command : LoadCommand) :
    leastSize ≤ command.share := by
  unfold share
  cases command.segment? with
  | none => exact le_rfl
  | some segment =>
      simp only [Segment.headerSize]
      cases segment.width <;> decide

theorem leastSize_mul_length_le_sum_share (commands : List LoadCommand) :
    leastSize * commands.length ≤ (commands.map share).sum := by
  induction commands with
  | nil => exact le_rfl
  | cons command rest ih =>
      have hfirst := command.leastSize_le_share
      rw [List.length_cons, List.map_cons, List.sum_cons, Nat.mul_succ]
      omega

theorem sum_headerSize_le_sum_share (commands : List LoadCommand) :
    ((commands.filterMap segment?).map Segment.headerSize).sum ≤
      (commands.map share).sum := by
  induction commands with
  | nil => exact le_rfl
  | cons command rest ih =>
      rw [List.map_cons, List.sum_cons]
      cases hsegment : command.segment? with
      | none =>
          rw [List.filterMap_cons_none hsegment]
          omega
      | some segment =>
          have hshare : command.share = segment.headerSize := by
            simp only [share, hsegment]
          rw [List.filterMap_cons_some hsegment, List.map_cons,
            List.sum_cons, hshare]
          omega

end LoadCommand

/-- The commands that a walk takes fit the area together. -/
theorem Walk.sum_share_run_le (order : ByteOrder) (count position : Nat)
    (area : Bytes) :
    ((run order count position area).commands.map LoadCommand.share).sum ≤
      area.length := by
  induction count generalizing position area with
  | zero => exact Nat.zero_le _
  | succ count ih =>
      rw [run]
      cases hread : LoadCommand.read order position area with
      | error failure => exact Nat.zero_le _
      | ok command =>
          have hchecked := LoadCommand.checked_of_read hread
          have hshare := hchecked.share_le
          have hsize := hchecked.size_le
          have hrest := ih (position + command.size.toNat)
            (area.drop command.size.toNat)
          rw [List.length_drop] at hrest
          simp only
          split
          · simp only [List.map_cons, List.map_nil, List.sum_cons,
              List.sum_nil]
            omega
          · rw [List.map_cons, List.sum_cons]
            omega

/-- However many commands are announced, a walk takes no more than have their
first two words in the area. -/
theorem Header.length_walk_le (header : Header) (bytes : Bytes) :
    (header.walk bytes).commands.length ≤
      header.commandsSize.toNat / 8 := by
  have hleast := LoadCommand.leastSize_mul_length_le_sum_share
    (header.walk bytes).commands
  have hsum : ((header.walk bytes).commands.map LoadCommand.share).sum ≤
      (header.area bytes).length :=
    Walk.sum_share_run_le _ _ _ _
  have harea : (header.area bytes).length ≤ header.commandsSize.toNat := by
    rw [area, List.length_take]
    exact min_le_left _ _
  rw [LoadCommand.leastSize] at hleast
  omega

theorem Segment.sum_headerSize (segments : List Segment) :
    (segments.map headerSize).sum =
      56 * segments.countP (·.width = .bits32) +
        72 * segments.countP (·.width = .bits64) := by
  induction segments with
  | nil => rfl
  | cons segment rest ih =>
      rw [List.map_cons, List.sum_cons, ih, List.countP_cons,
        List.countP_cons]
      cases hwidth : segment.width <;>
        simp [headerSize, hwidth, Width.segmentHeaderSize] <;> omega

/-! ## What arrays take of the bytes -/

namespace Segment

variable {segment : Segment} {bytes : Bytes}

theorem HasArray.length_le {order : ByteOrder} {entries : List Section}
    (harray : segment.HasArray order bytes entries) :
    entries.length ≤ bytes.length / segment.entrySize := by
  have hpos : 0 < segment.entrySize :=
    Nat.pos_of_ne_zero segment.width.sectionHeaderSize_ne_zero
  rw [Nat.le_div_iff_mul_le hpos, harray.length_eq]
  rcases Nat.eq_zero_or_pos segment.sectionCount.toNat with hnone | hsome
  · rw [hnone, Nat.zero_mul]
    exact Nat.zero_le _
  · exact (Nat.le_add_left _ _).trans (harray.fits hsome)

theorem narrow_le_entrySize (segment : Segment) :
    68 ≤ segment.entrySize := by
  unfold entrySize
  cases segment.width <;> decide

/-- An array takes at least 68 bytes for every entry, and they lie in the
bytes. -/
theorem HasArray.mul_length_le {order : ByteOrder} {entries : List Section}
    (harray : segment.HasArray order bytes entries) :
    68 * entries.length ≤ bytes.length := by
  have hnarrow := segment.narrow_le_entrySize
  calc
    68 * entries.length ≤ segment.entrySize * entries.length :=
      Nat.mul_le_mul_right _ hnarrow
    _ ≤ segment.entrySize * (bytes.length / segment.entrySize) :=
      Nat.mul_le_mul_left _ harray.length_le
    _ ≤ bytes.length := Nat.mul_div_le _ _

end Segment

namespace Image

variable {bytes : Bytes} {order : ByteOrder} {segments : List Segment}
  {arrays : List (List Section)}

theorem length_flatten_arrays
    (harrays : List.Forall₂ (fun segment => segment.HasArray order bytes)
      segments arrays) :
    arrays.flatten.length =
      (segments.map fun segment => segment.sectionCount.toNat).sum := by
  induction harrays with
  | nil => rfl
  | cons hfirst _ ih =>
      rw [List.flatten_cons, List.length_append, hfirst.length_eq, ih,
        List.map_cons, List.sum_cons]

/-- Arrays may overlap, so each segment may use all of the bytes. -/
theorem mul_length_flatten_arrays_le
    (harrays : List.Forall₂ (fun segment => segment.HasArray order bytes)
      segments arrays) :
    68 * arrays.flatten.length ≤ segments.length * bytes.length := by
  induction harrays with
  | nil => simp
  | cons hfirst _ ih =>
      have hentries := hfirst.mul_length_le
      rw [List.flatten_cons, List.length_append, List.length_cons, mul_add,
        add_mul, one_mul]
      omega

variable {image : Image}

/-- The header of an image claims as many commands as there are, and they fit
the area together. -/
theorem Accepted.sum_share_le {magic : Magic}
    (haccepted : Accepted bytes magic) :
    let area := CommandArea.ofImage bytes magic
    ((area.commands area.count).map LoadCommand.share).sum ≤
      (magic.order.word32At bytes 20).toNat := by
  intro area
  have hrun := CommandArea.run_eq_commands haccepted.whole
    (CommandArea.limit_ofImage_lt bytes magic) haccepted.clear
  have hsum := Walk.sum_share_run_le area.order area.count area.first
    (area.window area.first)
  rw [hrun, CommandArea.length_window haccepted.whole] at hsum
  exact hsum.trans_eq (Nat.add_sub_cancel_left _ _)

theorem exists_arrays_of_build (hparse : parse bytes = .ok image)
    {cursor : Nat} {table : SectionTable}
    (hbuild : (SectionTable.build (image.segments.map Segment.view)
      (.ofStream ⟨.ofBytes bytes, order, cursor⟩)).result = .ok table) :
    ∃ arrays, table.sections = arrays.flatten ∧
      List.Forall₂ (fun segment => segment.HasArray order bytes)
        image.segments arrays := by
  have hmedium : (⟨.ofBytes bytes, order, cursor⟩ : Stream).medium =
      .ofBytes bytes := rfl
  have hrange (segment : Segment) (hmem : segment ∈ image.segments) :=
    start_lt_of_parse hparse hmem
  rw [SectionTable.result_build] at hbuild
  rcases Scan.segments_ofBytes hrange hmedium 0 with
    ⟨arrays, harrays, hnone, hsections, _⟩ |
      ⟨_, _, _, _, _, _, _, _, _, hsome, _⟩
  · simp only [Scan.outcome, hnone, Except.map, Except.ok.injEq] at hbuild
    refine ⟨arrays, ?_, harrays⟩
    rw [← hbuild, hsections]
  · simp only [Scan.outcome, hsome, Except.map] at hbuild
    cases hbuild

/-- Whatever a header announces, a walk takes no more commands than its area
has room for.  The commands of an image fit the area together, and the area
fits the bytes.  A table that is built has as many sections as the segments
claim.  None of them claims more than the bytes have room for, and together
they take no more than all of the bytes for each segment. -/
theorem claims_inflate_nothing (bytes : Bytes) :
    (∀ header : Header,
      (header.walk bytes).commands.length ≤
        header.commandsSize.toNat / 8) ∧
    ∀ image, parse bytes = .ok image →
      let commandCount := (image.order.word32At bytes 16).toNat
      let commandsSize := (image.order.word32At bytes 20).toNat
      8 * commandCount ≤ commandsSize ∧
      56 * image.segments.countP (·.width = .bits32) +
          72 * image.segments.countP (·.width = .bits64) ≤ commandsSize ∧
      image.width.imageHeaderSize + commandsSize ≤ bytes.length ∧
      ∀ order cursor table,
        (SectionTable.build (image.segments.map Segment.view)
          (.ofStream ⟨.ofBytes bytes, order, cursor⟩)).result =
            .ok table →
        table.size = (image.segments.map fun segment =>
          segment.sectionCount.toNat).sum ∧
        68 * table.size ≤ image.segments.length * bytes.length ∧
        ∃ arrays, table.sections = arrays.flatten ∧
          List.Forall₂
            (fun segment entries => segment.HasArray order bytes entries ∧
              entries.length ≤ bytes.length / segment.entrySize)
            image.segments arrays := by
  refine ⟨fun header => header.length_walk_le bytes, ?_⟩
  intro image hparse commandCount commandsSize
  obtain ⟨magic, haccepted, rfl⟩ := exists_accepted_of_parse hparse
  let area := CommandArea.ofImage bytes magic
  have hshare : ((area.commands area.count).map LoadCommand.share).sum ≤
      commandsSize := haccepted.sum_share_le
  have hleast := LoadCommand.leastSize_mul_length_le_sum_share
    (area.commands area.count)
  have hheaders := LoadCommand.sum_headerSize_le_sum_share
    (area.commands area.count)
  rw [Segment.sum_headerSize] at hheaders
  have hcount : (area.commands area.count).length = commandCount := by
    rw [CommandArea.commands, List.length_map, List.length_range]
    rfl
  rw [hcount] at hleast
  refine ⟨hleast.trans hshare, hheaders.trans hshare, haccepted.whole, ?_⟩
  intro order cursor table hbuild
  obtain ⟨arrays, hsections, harrays⟩ := exists_arrays_of_build hparse hbuild
  have hsize : table.size = arrays.flatten.length :=
    congrArg List.length hsections
  rw [hsize]
  refine ⟨length_flatten_arrays harrays,
    mul_length_flatten_arrays_le harrays, arrays, hsections, ?_⟩
  exact harrays.imp fun segment entries harray =>
    ⟨harray, harray.length_le⟩

/-- A 32-bit image with two segments of three section headers each, where the
headers of the first one lie across the second segment and its headers. -/
def crowded : Bytes :=
  let segment : Bytes :=
    [1, 0, 0, 0, 56, 0, 0, 0] ++ List.replicate 40 0 ++
      [3, 0, 0, 0, 0, 0, 0, 0]
  [0xce, 0xfa, 0xed, 0xfe, 7, 0, 0, 0, 3, 0, 0, 0, 1, 0, 0, 0,
    2, 0, 0, 0, 112, 0, 0, 0, 0, 0, 0, 0] ++
      segment ++ segment ++ List.replicate 204 0

/-- All sections of a table may take more bytes than there are. -/
theorem claims_inflate_nothing_crowded :
    ∃ image table, parse crowded = .ok image ∧
      (SectionTable.build (image.segments.map Segment.view)
        (.ofStream ⟨.ofBytes crowded, .little, 0⟩)).result = .ok table ∧
      image.segments.length = 2 ∧ table.size = 6 ∧
      crowded.length < 68 * table.size ∧
      68 * table.size ≤ image.segments.length * crowded.length := by
  have hparse : parse crowded = .ok ⟨.little, .bits32,
      [⟨.blank, 0, 0, 0, 0, 0, 0, 3, 0, 28, .bits32⟩,
        ⟨.blank, 0, 0, 0, 0, 0, 0, 3, 0, 84, .bits32⟩]⟩ := by
    decide +kernel
  have hlength : crowded.length = 344 := by
    decide +kernel
  obtain ⟨table, hbuild⟩ :=
    (exists_build_iff_of_parse hparse .little 0).mpr (by
      rw [hlength]
      simp [Segment.Fits, Segment.headerSize, Segment.entrySize,
        Width.segmentHeaderSize, Width.sectionHeaderSize])
  obtain ⟨_, hclaims⟩ := claims_inflate_nothing crowded
  obtain ⟨_, _, _, htable⟩ := hclaims _ hparse
  obtain ⟨hsize, hbound, _⟩ := htable _ _ _ hbuild
  have hsix : table.size = 6 := hsize.trans rfl
  refine ⟨_, table, hparse, hbuild, rfl, hsix, ?_, hbound⟩
  rw [hsix, hlength]
  decide

end Image

end MachO
