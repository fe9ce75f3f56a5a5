import MachO.Proofs.Codec
import MachO.Proofs.Medium
import MachO.Table

/-!
# Section headers by random access

The headers of a segment lie one after the other, so each of them can be read
on its own: by a cursor that is put at its place, which follows from its
number.  A table is built with one cursor that is put only at the first header
of every segment and left to advance.

The two agree on every medium.  The invariant of a scan is that its cursor
stands where the medium could be positioned: behind a header that was read,
since all of it lies before the stop of the medium.
-/

namespace MachO

def Medium.Shortage.error (position expected : Nat) : Shortage → Error
  | ended => .shortRead position expected
  | broken fault => .readFailure position fault

theorem Width.sectionHeaderSize_ne_zero (width : Width) :
    width.sectionHeaderSize ≠ 0 := by
  cases width <;> simp [sectionHeaderSize]

/-- Reading a section header: the position cannot be told, or the header lies
before the stop and the cursor goes behind it, or the cursor goes to the
stop. -/
theorem Stream.readSection_cases (stream : Stream) (width : Width) :
    (stream.medium.canTell = false ∧
        stream.readSection width =
          (.error (.positionUnknown .positionUnknown), stream)) ∨
      (stream.medium.canTell = true ∧
        stream.cursor + width.sectionHeaderSize ≤ stream.medium.stop ∧
        ∃ header,
          Section.decode stream.order
              ((stream.medium.data.drop stream.cursor).take
                width.sectionHeaderSize) width = .ok header ∧
            stream.readSection width =
              (.ok header, { stream with
                cursor := stream.cursor + width.sectionHeaderSize })) ∨
      (stream.medium.canTell = true ∧
        stream.medium.stop < stream.cursor + width.sectionHeaderSize ∧
        stream.readSection width =
          (.error ((stream.medium.shortageAt
              (max stream.cursor stream.medium.stop)).error
                stream.cursor width.sectionHeaderSize),
            { stream with
              cursor := max stream.cursor stream.medium.stop })) := by
  have hsize := width.sectionHeaderSize_ne_zero
  have hfill := Medium.fill_eq stream.medium stream.cursor
    width.sectionHeaderSize []
  cases htell : stream.medium.canTell with
  | false =>
      refine Or.inl ⟨rfl, ?_⟩
      simp only [readSection, tell, htell, Bool.false_eq_true, if_false]
  | true =>
      by_cases hfits :
          stream.cursor + width.sectionHeaderSize ≤ stream.medium.stop
      · rw [if_pos (Or.inr hfits), List.nil_append] at hfill
        obtain ⟨header, hheader⟩ := Section.exists_decode stream.order
          (Medium.length_take_drop hfits).ge
        refine Or.inr (Or.inl ⟨rfl, hfits, header, hheader, ?_⟩)
        simp only [readSection, tell, htell, if_true, hfill, hheader]
      · rw [if_neg (by omega)] at hfill
        refine Or.inr (Or.inr ⟨rfl, by omega, ?_⟩)
        simp only [readSection, tell, htell, if_true, hfill]
        cases stream.medium.shortageAt
            (max stream.cursor stream.medium.stop) with
        | ended => rfl
        | broken fault => rfl

namespace RandomAccess

/-- The codes of the commands with section headers, and their forms. -/
def forms : List (UInt32 × Width) :=
  [(0x1, .bits32), (0x19, .bits64)]

/-- The section header at a position, read by a cursor of its own. -/
def headerAt (medium : Medium) (order : ByteOrder) (width : Width)
    (position : Nat) : Except Error Section :=
  match (Stream.start order medium).seek position with
  | (.error failure, _) => .error failure
  | (.ok (), stream) => (stream.readSection width).1

def headers (medium : Medium) (order : ByteOrder) (view : View) :
    Except Error (List Section) :=
  match forms.lookup view.command with
  | none => .error (.unsupportedCommand view.command)
  | some width =>
      if 2 ^ 64 ≤ view.position + view.headerSize then
        .error (.positionOverflow view.position view.headerSize)
      else
        match (Stream.start order medium).seek
            (view.position + view.headerSize) with
        | (.error failure, _) => .error failure
        | (.ok (), _) =>
            (List.range view.sectionCount.toNat).mapM fun i =>
              headerAt medium order width (view.position + view.headerSize +
                i * width.sectionHeaderSize)

def table (medium : Medium) (order : ByteOrder) (views : List View) :
    Except Error SectionTable :=
  (views.mapM (headers medium order)).map fun arrays => ⟨arrays.flatten⟩

theorem lookup_forms (code : UInt32) :
    forms.lookup code = Width.ofSegmentCode? code := by
  by_cases hnarrow : code = 0x1
  · subst hnarrow
    rfl
  by_cases hwide : code = 0x19
  · subst hwide
    rfl
  have hnarrow' : (code == 0x1) = false := beq_false_of_ne hnarrow
  have hwide' : (code == 0x19) = false := beq_false_of_ne hwide
  simp only [forms, List.lookup_cons, List.lookup_nil, hnarrow', hwide',
    Width.ofSegmentCode?,
    if_neg hnarrow, if_neg hwide]

theorem headerAt_eq {medium : Medium} {position : Nat}
    (hseek : medium.seekFault? position = none) (order : ByteOrder)
    (width : Width) :
    headerAt medium order width position =
      ((⟨medium, order, position⟩ : Stream).readSection width).1 := by
  simp only [headerAt, Stream.seek, Stream.start, hseek]

end RandomAccess

theorem Medium.seekFault?_eq_none_of_le {medium : Medium}
    {position later : Nat} (hseek : medium.seekFault? position = none)
    (hlater : later ≤ medium.data.length) :
    medium.seekFault? later = none := by
  unfold seekFault? at hseek ⊢
  cases hcan : medium.canSeek with
  | false => simp [hcan] at hseek
  | true =>
      have hinside : ¬ (medium.bounded = true ∧
          medium.data.length < later) := by
        omega
      simp only [Bool.not_true, Bool.false_eq_true, if_false, if_neg hinside]

namespace Scan

/-- The headers that a scan has read, or why it failed. -/
def outcome (scan : Scan) : Except Error (List Section) :=
  match scan.failure? with
  | some failure => .error failure
  | none => .ok scan.sections

theorem outcome_cons (header : Section) (events : List Log.Event)
    (rest : Scan) :
    outcome { rest with
        sections := header :: rest.sections
        events := events } =
      rest.outcome.map (header :: ·) := by
  cases hfailure : rest.failure? <;> simp only [outcome, hfailure] <;> rfl

theorem headers_succ_of_error {width : Width} {stream after : Stream}
    {failure : Error}
    (hread : stream.readSection width = (.error failure, after))
    (count index : Nat) :
    headers width (count + 1) index stream = failed failure after := by
  simp only [headers, hread]

theorem headers_succ_of_ok {width : Width} {stream after : Stream}
    {header : Section}
    (hread : stream.readSection width = (.ok header, after))
    (count index : Nat) :
    headers width (count + 1) index stream =
      let rest := headers width count (index + 1) after
      { rest with
        sections := header :: rest.sections
        events := .sectionRead index header :: rest.events } := by
  simp only [headers, hread]

theorem frame_headers (width : Width) (count index : Nat) (stream : Stream) :
    (headers width count index stream).stream.medium = stream.medium ∧
      (headers width count index stream).stream.order = stream.order := by
  induction count generalizing index stream with
  | zero => exact ⟨rfl, rfl⟩
  | succ count ih =>
      rcases stream.readSection_cases width with
        ⟨_, hread⟩ | ⟨_, _, header, _, hread⟩ | ⟨_, _, hread⟩
      · rw [headers_succ_of_error hread]
        exact ⟨rfl, rfl⟩
      · rw [headers_succ_of_ok hread]
        exact ih (index + 1) _
      · rw [headers_succ_of_error hread]
        exact ⟨rfl, rfl⟩

/-- Headers read in a row are the headers at their places. -/
theorem outcome_headers (width : Width) (count index : Nat)
    (stream : Stream)
    (hseek : stream.medium.seekFault? stream.cursor = none) :
    (headers width count index stream).outcome =
      (List.range count).mapM fun i =>
        RandomAccess.headerAt stream.medium stream.order width
          (stream.cursor + i * width.sectionHeaderSize) := by
  induction count generalizing index stream with
  | zero => rfl
  | succ count ih =>
      have hfirst := RandomAccess.headerAt_eq hseek stream.order width
      rw [List.range_succ_eq_map, List.mapM_cons, List.mapM_map, Nat.zero_mul,
        Nat.add_zero stream.cursor, hfirst]
      rcases stream.readSection_cases width with
        ⟨_, hread⟩ | ⟨_, hfits, header, _, hread⟩ | ⟨_, _, hread⟩
      · rw [headers_succ_of_error hread, hread]
        rfl
      · -- A bounded medium would refuse only a position behind its end, and
        -- the header that was read ends before that.
        have hnext : stream.medium.seekFault?
            (stream.cursor + width.sectionHeaderSize) = none :=
          Medium.seekFault?_eq_none_of_le hseek
            (hfits.trans stream.medium.stop_le_length)
        have hrest := ih (index + 1)
          { stream with cursor := stream.cursor + width.sectionHeaderSize }
          hnext
        have hshift : ((fun i => RandomAccess.headerAt stream.medium
              stream.order width
              (stream.cursor + i * width.sectionHeaderSize)) ∘ Nat.succ) =
            fun i => RandomAccess.headerAt stream.medium stream.order width
              (stream.cursor + width.sectionHeaderSize +
                i * width.sectionHeaderSize) := by
          funext i
          rw [Function.comp_apply, Nat.succ_mul,
            Nat.add_comm (i * width.sectionHeaderSize), Nat.add_assoc]
        rw [headers_succ_of_ok hread, hread, hshift, ← hrest]
        exact outcome_cons header _ _
      · rw [headers_succ_of_error hread, hread]
        rfl

/-- The fate of a segment that is scanned depends on the medium and not on
where the cursor was left. -/
theorem outcome_segment (view : View) (index : Nat) (stream : Stream) :
    (segment view index stream).outcome =
      RandomAccess.headers stream.medium stream.order view := by
  have hstart : view.position + view.headerSize = view.start := rfl
  unfold segment RandomAccess.headers
  rw [RandomAccess.lookup_forms, View.width?, hstart]
  cases Width.ofSegmentCode? view.command with
  | none => rfl
  | some width =>
      by_cases hrange : addressableRange ≤ view.start
      · have hoverflow : 2 ^ 64 ≤ view.start := hrange
        simp only [if_pos hrange, if_pos hoverflow]
        rfl
      · have hoverflow : ¬ 2 ^ 64 ≤ view.start := hrange
        simp only [if_neg hrange, if_neg hoverflow, Stream.seek, Stream.start]
        cases hseek : stream.medium.seekFault? view.start with
        | some fault => rfl
        | none =>
            exact outcome_headers width view.sectionCount.toNat index
              { stream with cursor := view.start } hseek

theorem frame_segment (view : View) (index : Nat) (stream : Stream) :
    (segment view index stream).stream.medium = stream.medium ∧
      (segment view index stream).stream.order = stream.order := by
  unfold segment
  cases view.width? with
  | none => exact ⟨rfl, rfl⟩
  | some width =>
      simp only
      split
      · exact ⟨rfl, rfl⟩
      · cases hseek : stream.medium.seekFault? view.start with
        | some fault =>
            simp only [Stream.seek, hseek]
            exact ⟨trivial, trivial⟩
        | none =>
            simp only [Stream.seek, hseek]
            exact frame_headers width view.sectionCount.toNat index
              { stream with cursor := view.start }

theorem outcome_followedBy (first second : Scan) :
    (first.followedBy second).outcome =
      second.outcome.map (first.sections ++ ·) := by
  cases hsecond : second.failure? <;>
    simp only [outcome, followedBy, hsecond] <;> rfl

theorem outcome_segments (views : List View) (index : Nat) (stream : Stream) :
    (segments views index stream).outcome =
      (views.mapM (RandomAccess.headers stream.medium stream.order)).map
        List.flatten := by
  induction views generalizing index stream with
  | nil => rfl
  | cons view views ih =>
      have hfirst := outcome_segment view index stream
      obtain ⟨hmedium, horder⟩ := frame_segment view index stream
      rw [segments, List.mapM_cons, ← hfirst]
      cases hfailure : (segment view index stream).failure? with
      | some failure =>
          have houtcome : (segment view index stream).outcome =
              .error failure := by
            simp only [outcome, hfailure]
          rw [houtcome]
          rfl
      | none =>
          have houtcome : (segment view index stream).outcome =
              .ok (segment view index stream).sections := by
            simp only [outcome, hfailure]
          have hrest := ih
            (index + (segment view index stream).sections.length)
            (segment view index stream).stream
          rw [hmedium, horder] at hrest
          rw [houtcome]
          simp only
          rw [outcome_followedBy, hrest]
          cases views.mapM
              (RandomAccess.headers stream.medium stream.order) with
          | error failure => rfl
          | ok arrays => rfl

end Scan

/-- A table is what a scan gives, when nobody else holds the stream. -/
theorem SectionTable.result_build (views : List View) (stream : Stream) :
    (build views (.ofStream stream)).result =
      (Scan.segments views 0 stream).outcome.map SectionTable.mk := by
  unfold build
  cases hfailure : (Scan.segments views 0 stream).failure? <;>
    simp only [SharedStream.acquire, SharedStream.ofStream,
      Bool.false_eq_true, if_false, Scan.outcome, hfailure] <;> rfl

/-- A table that is built with one cursor is the table of the headers at
their places, and it fails with the first of their errors. -/
theorem SectionTable.build_eq_random_access (views : List View)
    (stream : Stream) :
    (build views (.ofStream stream)).result =
      RandomAccess.table stream.medium stream.order views := by
  rw [result_build, Scan.outcome_segments, RandomAccess.table]
  cases views.mapM (RandomAccess.headers stream.medium stream.order) with
  | error failure => rfl
  | ok arrays => rfl

end MachO
