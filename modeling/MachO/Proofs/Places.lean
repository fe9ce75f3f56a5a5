import MachO.Proofs.Grammar

/-!
# Places of segments

Reading an image counts positions apart from the bytes that it takes, and a
segment remembers the position that was counted.  The two never differ: every
segment of an image stands where it says it does, and from its place alone its
command can be read again.  The segments are the segment commands among those
that the header counts, in order, and their fixed parts lie in the area of the
commands one behind the other.
-/

namespace MachO

theorem Width.ofSegmentCode?_eq_none_iff (code : UInt32) :
    ofSegmentCode? code = none ↔ ¬ (code = 0x1 ∨ code = 0x19) := by
  unfold ofSegmentCode?
  by_cases hnarrow : code = 0x1
  · simp [hnarrow]
  · by_cases hwide : code = 0x19
    · simp [hwide]
    · simp [hnarrow, hwide]

namespace CommandArea

variable {area : CommandArea}

theorem offset_le_offset_succ (k : Nat) :
    area.offset k ≤ area.offset (k + 1) :=
  Nat.le_add_right _ _

theorem offset_mono {j k : Nat} (hle : j ≤ k) :
    area.offset j ≤ area.offset k :=
  monotone_nat_of_le_succ offset_le_offset_succ hle

theorem decode_of_segmentAt? {offset : Nat} {segment : Segment}
    (hsegment : area.segmentAt? offset = some segment) :
    Segment.decode area.order offset (area.bytes.drop offset) segment.width =
      .ok segment := by
  have hwidth := (place_of_segmentAt? hsegment).1
  simp only [segmentAt?, hwidth] at hsegment
  cases hdecode : Segment.decode area.order offset (area.bytes.drop offset)
      segment.width with
  | error mistake => simp [hdecode, Except.toOption] at hsegment
  | ok decoded =>
      simp only [hdecode, Except.toOption, Option.some.injEq] at hsegment
      rw [hsegment]

theorem codeAt_of_segmentAt? {offset : Nat} {segment : Segment}
    (hsegment : area.segmentAt? offset = some segment) :
    area.codeAt offset = segment.command :=
  (Width.segmentCode_of_ofSegmentCode? (place_of_segmentAt? hsegment).1).symm

theorem bounds_of_segmentAt? {k : Nat} {segment : Segment}
    (hnone : area.violation? (area.offset k) = none)
    (hsegment : area.segmentAt? (area.offset k) = some segment) :
    segment.position + segment.headerSize ≤ area.offset (k + 1) ∧
      area.offset (k + 1) ≤ area.limit := by
  obtain ⟨hwidth, hposition⟩ := place_of_segmentAt? hsegment
  rw [hposition]
  constructor
  · exact Nat.add_le_add_left
      (segmentHeaderSize_le_of_violation?_eq_none hnone hwidth) _
  · exact (bounds_of_violation?_eq_none hnone).2

theorem segmentAt?_cases (hlimit : area.limit ≤ area.bytes.length)
    {offset : Nat} (hnone : area.violation? offset = none) :
    (area.segmentAt? offset = none ∧
        ¬ (area.codeAt offset = 0x1 ∨ area.codeAt offset = 0x19)) ∨
      ∃ segment, area.segmentAt? offset = some segment ∧
        (area.codeAt offset = 0x1 ∨ area.codeAt offset = 0x19) ∧
          segment.position = offset ∧
            segment.command = area.codeAt offset := by
  cases hwidth : Width.ofSegmentCode? (area.codeAt offset) with
  | none =>
      refine Or.inl ⟨by simp only [segmentAt?, hwidth], ?_⟩
      exact (Width.ofSegmentCode?_eq_none_iff _).mp hwidth
  | some width =>
      obtain ⟨segment, hsegment, _⟩ := exists_segmentAt? hlimit hnone hwidth
      have hcode : area.codeAt offset = 0x1 ∨ area.codeAt offset = 0x19 := by
        by_contra hother
        rw [(Width.ofSegmentCode?_eq_none_iff _).mpr hother] at hwidth
        cases hwidth
      exact Or.inr ⟨segment, hsegment, hcode,
        (place_of_segmentAt? hsegment).2, (codeAt_of_segmentAt? hsegment).symm⟩

def segments (area : CommandArea) (count : Nat) : List Segment :=
  (List.range count).filterMap fun k => area.segmentAt? (area.offset k)

theorem filterMap_commands (count : Nat) :
    (area.commands count).filterMap LoadCommand.segment? =
      area.segments count := by
  rw [commands, List.filterMap_map]
  rfl

theorem exists_segmentAt?_of_mem {count : Nat} {segment : Segment}
    (hmem : segment ∈ area.segments count) :
    ∃ k < count, area.segmentAt? (area.offset k) = some segment := by
  simpa only [segments, List.mem_filterMap, List.mem_range] using hmem

/-- None of the segment commands is missing, and none is invented. -/
theorem map_place_segments (hlimit : area.limit ≤ area.bytes.length)
    {count : Nat} (hclear : area.Clear count) :
    (area.segments count).map (fun s => (s.position, s.command)) =
      ((List.range count).map fun k =>
        (area.offset k, area.codeAt (area.offset k))).filter
          fun command => command.2 = 0x1 ∨ command.2 = 0x19 := by
  induction count with
  | zero => rfl
  | succ count ih =>
      -- The last command adds to both sides or to neither, by its code.
      have hrest := ih (hclear.mono (by omega))
      rw [segments, List.range_succ, List.filterMap_append, List.map_append,
        List.map_append, List.filter_append, ← hrest]
      rcases segmentAt?_cases hlimit (hclear count (by omega)) with
        ⟨hsegment, hcode⟩ | ⟨segment, hsegment, hcode, hposition, hcommand⟩
      · simp [segments, hsegment, hcode]
      · simp [segments, hsegment, hcode, hposition, hcommand]

theorem pairwise_segments {count : Nat} (hclear : area.Clear count) :
    (area.segments count).Pairwise fun first second =>
      first.position + first.headerSize ≤ second.position := by
  rw [segments, List.pairwise_filterMap]
  refine List.pairwise_lt_range.imp_of_mem ?_
  intro j k hj _ hlt first hfirst second hsecond
  have hnone := hclear j (List.mem_range.mp hj)
  have hend := (bounds_of_segmentAt? hnone hfirst).1
  have hnext : area.offset (j + 1) ≤ area.offset k :=
    offset_mono (Nat.succ_le_of_lt hlt)
  rw [(place_of_segmentAt? hsecond).2]
  omega

end CommandArea

namespace Image

variable {bytes : Bytes} {magic : Magic} {image : Image}

theorem segments_ofCommands (bytes : Bytes) (magic : Magic) :
    (ofCommands bytes magic).segments =
      (CommandArea.ofImage bytes magic).segments
        (CommandArea.ofImage bytes magic).count :=
  CommandArea.filterMap_commands _

/-- A segment can be read again from the place that it remembers, and only its
fixed part is needed for that. -/
theorem Accepted.decode_of_mem (haccepted : Accepted bytes magic)
    {segment : Segment}
    (hmem : segment ∈ (ofCommands bytes magic).segments) :
    magic.order.word32At bytes segment.position = segment.command ∧
      Segment.decode magic.order segment.position
          ((bytes.drop segment.position).take segment.headerSize)
          segment.width =
        .ok segment := by
  rw [segments_ofCommands] at hmem
  obtain ⟨k, hk, hsegment⟩ := CommandArea.exists_segmentAt?_of_mem hmem
  have hposition := (CommandArea.place_of_segmentAt? hsegment).2
  have hcode := CommandArea.codeAt_of_segmentAt? hsegment
  have hdecode := CommandArea.decode_of_segmentAt? hsegment
  have hbounds := CommandArea.bounds_of_segmentAt?
    (haccepted.clear k hk) hsegment
  have hwhole := haccepted.whole
  rw [← hposition] at hcode hdecode
  refine ⟨hcode, ?_⟩
  have hlength : segment.width.segmentHeaderSize ≤
      (bytes.drop segment.position).length := by
    rw [List.length_drop]
    have hheader : segment.headerSize = segment.width.segmentHeaderSize := rfl
    omega
  exact (Segment.decode_take magic.order segment.position le_rfl hlength).trans
    hdecode

/-- The segments of an image are the segment commands among those that its
header counts, in order.  Each of them stands where it says, and their fixed
parts follow one another inside the area of the commands. -/
theorem segments_in_place (hparse : parse bytes = .ok image) :
    let magic : Magic := ⟨image.order, image.width⟩
    let area := CommandArea.ofImage bytes magic
    Announces bytes magic ∧
      image.segments.map (fun s => (s.position, s.command)) =
        ((List.range area.count).map fun k =>
          (area.offset k, area.codeAt (area.offset k))).filter
            (fun command => command.2 = 0x1 ∨ command.2 = 0x19) ∧
      (∀ segment ∈ image.segments,
        image.order.word32At bytes segment.position = segment.command ∧
          Segment.decode image.order segment.position
              ((bytes.drop segment.position).take segment.headerSize)
              segment.width =
            .ok segment) ∧
      image.segments.Pairwise (fun first second =>
        first.position + first.headerSize ≤ second.position) ∧
      (∀ segment ∈ image.segments,
        area.first ≤ segment.position ∧
          segment.position + segment.headerSize ≤ area.limit) ∧
      area.limit ≤ bytes.length := by
  obtain ⟨magic, haccepted, rfl⟩ := exists_accepted_of_parse hparse
  refine ⟨haccepted.announced, ?_, fun segment => haccepted.decode_of_mem,
    ?_, fun segment hmem => ?_, haccepted.whole⟩
  · rw [segments_ofCommands]
    exact CommandArea.map_place_segments haccepted.whole haccepted.clear
  · rw [segments_ofCommands]
    exact CommandArea.pairwise_segments haccepted.clear
  · rw [segments_ofCommands] at hmem
    obtain ⟨k, hk, hsegment⟩ := CommandArea.exists_segmentAt?_of_mem hmem
    have hposition := (CommandArea.place_of_segmentAt? hsegment).2
    have hbounds := CommandArea.bounds_of_segmentAt?
      (haccepted.clear k hk) hsegment
    have hfirst : (CommandArea.ofImage bytes magic).offset 0 ≤
        (CommandArea.ofImage bytes magic).offset k :=
      CommandArea.offset_mono (Nat.zero_le k)
    refine ⟨?_, hbounds.1.trans hbounds.2⟩
    rw [hposition]
    exact hfirst

/-- A 32-bit image with a command that is skipped, a 64-bit segment and, behind
another skipped command, a 32-bit segment. -/
def interleaved : Bytes :=
  [0xce, 0xfa, 0xed, 0xfe, 7, 0, 0, 0, 3, 0, 0, 0, 1, 0, 0, 0,
    4, 0, 0, 0, 148, 0, 0, 0, 0, 0, 0, 0,
    5, 0, 0, 0, 8, 0, 0, 0,
    0x19, 0, 0, 0, 72, 0, 0, 0] ++ List.replicate 64 0 ++
      [14, 0, 0, 0, 12, 0, 0, 0, 0, 0, 0, 0,
        1, 0, 0, 0, 56, 0, 0, 0] ++ List.replicate 48 0

theorem segments_in_place_interleaved :
    ∃ image, parse interleaved = .ok image ∧
      image.segments.map (fun s => (s.position, s.command)) =
        [(36, 0x19), (120, 0x1)] := by
  have hparse : parse interleaved = .ok ⟨.little, .bits32,
      [⟨.blank, 0, 0, 0, 0, 0, 0, 0, 0, 36, .bits64⟩,
        ⟨.blank, 0, 0, 0, 0, 0, 0, 0, 0, 120, .bits32⟩]⟩ := by
    decide +kernel
  refine ⟨_, hparse, (segments_in_place hparse).2.1.trans ?_⟩
  decide +kernel

end Image

end MachO
