import MachO.Proofs.Extent
import MachO.Proofs.Halts

/-!
# Positions stay in range

What a walk over the load commands has taken lies inside the area of the
commands, so that its position never comes to the end of the 64-bit range: that
the area ends before it is known from the header.  Views may say anything.  The
start of their section headers is a plain sum, and it is used only when it is in
range.
-/

namespace MachO

/-! ## The walk over the load commands -/

/-- What is checked of a command before a walk takes it, and what is made of
it. -/
structure LoadCommand.Checked (order : ByteOrder) (position : Nat)
    (area : Bytes) (command : LoadCommand) : Prop where
  position_eq : command.position = position
  leastSize_le : leastSize ≤ command.size.toNat
  size_le : command.size.toNat ≤ area.length
  structureSize_le : structureSize command.code ≤ command.size.toNat
  segment_cases : command.segment? = none ∨
    ∃ width segment, Width.ofSegmentCode? command.code = some width ∧
      Segment.decode order position area width = .ok segment ∧
        command.segment? = some segment

theorem LoadCommand.checked_of_read {order : ByteOrder} {position : Nat}
    {area : Bytes} {command : LoadCommand}
    (hread : read order position area = .ok command) :
    Checked order position area command := by
  unfold read at hread
  by_cases hshort : area.length < leastSize
  · rw [if_pos hshort] at hread
    cases hread
  rw [if_neg hshort] at hread
  by_cases hsize : (order.word32At area 4).toNat < leastSize ∨
      area.length < (order.word32At area 4).toNat
  · rw [if_pos hsize] at hread
    cases hread
  rw [if_neg hsize] at hread
  by_cases hstructure : (order.word32At area 4).toNat <
      structureSize (order.word32At area 0)
  · rw [if_pos hstructure] at hread
    cases hread
  rw [if_neg hstructure] at hread
  obtain ⟨hleast, hinside⟩ := not_or.mp hsize
  cases hwidth : Width.ofSegmentCode? (order.word32At area 0) with
  | none =>
      simp only [hwidth] at hread
      cases hread
      exact ⟨rfl, not_lt.mp hleast, not_lt.mp hinside, not_lt.mp hstructure,
        Or.inl rfl⟩
  | some width =>
      cases hdecode : Segment.decode order position area width with
      | error mistake => simp [hwidth, hdecode] at hread
      | ok segment =>
          simp only [hwidth, hdecode] at hread
          cases hread
          exact ⟨rfl, not_lt.mp hleast, not_lt.mp hinside,
            not_lt.mp hstructure,
            Or.inr ⟨width, segment, hwidth, hdecode, rfl⟩⟩

/-- Whatever a walk takes ends inside the area. -/
theorem Walk.end_le_of_mem_run (order : ByteOrder) {count position : Nat}
    {area : Bytes} {command : LoadCommand}
    (hmem : command ∈ (run order count position area).commands) :
    command.position + command.size.toNat ≤ position + area.length := by
  induction count generalizing position area with
  | zero => cases hmem
  | succ count ih =>
      rw [run] at hmem
      cases hread : LoadCommand.read order position area with
      | error failure =>
          rw [hread] at hmem
          cases hmem
      | ok first =>
          have hchecked := LoadCommand.checked_of_read hread
          have hposition := hchecked.position_eq
          have hsize := hchecked.size_le
          simp only [hread] at hmem
          by_cases hrange : addressableRange ≤ position + first.size.toNat
          · rw [if_pos hrange, List.mem_singleton] at hmem
            subst hmem
            omega
          · rw [if_neg hrange] at hmem
            rcases List.mem_cons.mp hmem with rfl | hrest
            · omega
            · have hle := ih hrest
              rw [List.length_drop] at hle
              omega

theorem Header.bounds_of_readAs {width : Width} {bytes : Bytes}
    {header : Header} (hread : readAs width bytes = .ok header) :
    header.size + header.commandsSize.toNat ≤ bytes.length := by
  unfold readAs at hread
  split at hread
  · cases hread
  · split at hread
    · cases hread
    · simp only at hread
      split at hread
      · cases hread
      · next hwhole =>
        cases hread
        exact Nat.not_lt.mp hwhole

theorem Header.bounds_of_read {bytes : Bytes} {header : Header}
    (hread : read bytes = .ok header) :
    header.size + header.commandsSize.toNat ≤ bytes.length := by
  unfold read at hread
  split at hread
  · cases hread
  · split at hread
    · cases hread
    · exact bounds_of_readAs hread

theorem Header.area_end_lt (header : Header) :
    header.size + header.commandsSize.toNat < addressableRange := by
  have hsize : header.size ≤ 32 := by
    unfold size
    cases header.magic.width <;> decide
  have hcommands := header.commandsSize.toNat_lt
  unfold addressableRange
  omega

/-- The end of every command is an offset into the bytes, and in range. -/
theorem Header.end_of_mem_walk {bytes : Bytes} {header : Header}
    (hread : read bytes = .ok header) {command : LoadCommand}
    (hmem : command ∈ (header.walk bytes).commands) :
    command.position + command.size.toNat ≤ bytes.length ∧
      command.position + command.size.toNat < addressableRange := by
  have hwhole := bounds_of_read hread
  have harea : (header.area bytes).length = header.commandsSize.toNat := by
    rw [area, List.length_take, List.length_drop]
    omega
  have hend := Walk.end_le_of_mem_run _ hmem
  rw [harea] at hend
  exact ⟨hend.trans hwhole, hend.trans_lt header.area_end_lt⟩

/-! ## Where arrays are read -/

namespace Scan

theorem not_reading_mem_headers (width : Width) (count index : Nat)
    (stream : Stream) (entries : UInt32) (form : Width) (start : Nat) :
    .reading entries form start ∉ (headers width count index stream).events := by
  rw [(readsArray_headers width count index stream).events_eq]
  intro hmem
  obtain ⟨i, hi, hevent⟩ := List.mem_mapIdx.mp hmem
  cases hevent

/-- An array is read from where it starts, which is in range. -/
theorem start_of_reading_mem_segment {view : View} {index : Nat}
    {stream : Stream} {entries : UInt32} {form : Width} {start : Nat}
    (hmem : .reading entries form start ∈
      (segment view index stream).events) :
    start = view.position + view.headerSize ∧ start < addressableRange := by
  rcases view.refused_or_placed with ⟨failure, hrefused⟩ |
    ⟨width, hwidth, hrange⟩
  · rw [segment_of_refused hrefused] at hmem
    cases hmem
  have hfirst : Log.Event.reading entries form start =
      .reading view.sectionCount width view.start := by
    cases hseek : stream.medium.seekFault? view.start with
    | some fault =>
        rw [segment_of_seekFault? hwidth hrange hseek] at hmem
        exact List.mem_singleton.mp hmem
    | none =>
        rw [segment_of_seekFault?_eq_none hwidth hrange hseek] at hmem
        rcases List.mem_cons.mp hmem with hfirst | hrest
        · exact hfirst
        · exact absurd hrest (not_reading_mem_headers _ _ _ _ _ _ _)
  cases hfirst
  exact ⟨rfl, hrange⟩

theorem start_of_reading_mem_segments {views : List View} {index : Nat}
    {stream : Stream} {entries : UInt32} {form : Width} {start : Nat}
    (hmem : .reading entries form start ∈
      (segments views index stream).events) :
    ∃ view ∈ views, start = view.position + view.headerSize ∧
      start < addressableRange := by
  induction views generalizing index stream with
  | nil => cases hmem
  | cons view views ih =>
      cases hfailure : (segment view index stream).failure? with
      | some failure =>
          rw [segments_cons_of_error hfailure] at hmem
          exact ⟨view, List.mem_cons_self, start_of_reading_mem_segment hmem⟩
      | none =>
          rw [segments_cons_of_ok hfailure] at hmem
          rcases List.mem_append.mp hmem with hfirst | hrest
          · exact ⟨view, List.mem_cons_self,
              start_of_reading_mem_segment hfirst⟩
          · obtain ⟨other, hother, hstart⟩ := ih hrest
            exact ⟨other, List.mem_cons_of_mem view hother, hstart⟩

end Scan

theorem SectionTable.start_of_reading_mem_build {views : List View}
    {shared : SharedStream} {entries : UInt32} {form : Width} {start : Nat}
    (hmem : .reading entries form start ∈ (build views shared).events) :
    ∃ view ∈ views, start = view.position + view.headerSize ∧
      start < addressableRange := by
  unfold build at hmem
  split at hmem
  · cases hmem
  · simp only at hmem
    split at hmem
    · exact Scan.start_of_reading_mem_segments hmem
    · rcases List.mem_append.mp hmem with hscan | hbuilt
      · exact Scan.start_of_reading_mem_segments hscan
      · cases List.mem_singleton.mp hbuilt

/-- A table is built only when every array starts in range. -/
theorem SectionTable.start_lt_of_build {views : List View}
    {shared : SharedStream} {table : SectionTable}
    (hbuild : (build views shared).result = .ok table) {view : View}
    (hview : view ∈ views) :
    view.position + view.headerSize < addressableRange := by
  cases hlocked : shared.locked with
  | true =>
      rw [build_of_locked hlocked] at hbuild
      cases hbuild
  | false =>
      rw [SharedStream.eq_ofStream hlocked] at hbuild
      have hall := (exists_build_iff views shared.stream).mp ⟨table, hbuild⟩
      obtain ⟨sections, hsections⟩ := hall view hview
      by_contra hrange
      unfold RandomAccess.headers at hsections
      split at hsections
      · cases hsections
      · have hoverflow : 2 ^ 64 ≤ view.position + view.headerSize :=
          Nat.not_lt.mp hrange
        rw [if_pos hoverflow] at hsections
        cases hsections

/-! ## Alignments and names -/

theorem Section.alignment_eq (s : Section) :
    s.alignment =
      if s.alignmentExponent.toNat < 64 then 2 ^ s.alignmentExponent.toNat
      else 0 := by
  unfold alignment
  rw [Nat.one_shiftLeft]
  rfl

theorem Section.alignment_lt (s : Section) :
    s.alignment < addressableRange := by
  rw [alignment_eq]
  split
  · next hexponent => exact Nat.pow_lt_pow_right (by decide) hexponent
  · decide

theorem FixedName.content_prefix (name : FixedName) :
    name.content <+: name.raw :=
  List.takeWhile_prefix _

end MachO
