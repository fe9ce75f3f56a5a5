import MachO.Proofs.Cursor
import MachO.Proofs.Places
import MachO.Proofs.ReadPaths

/-!
# Where a scan halts

A table is built by a scan over views, each of which is refused for what it
says, cannot be gone to, or has its section headers read one after the other.
What a scan does is told here once: the headers that it has read, its reports,
why it ended and where it has left the cursor.

From this follows what a build leaves behind.  The cursor stands where the last
array ended, or where the failing view found it if that was not gone to, or
where the medium denied the header that the error names.
-/

namespace MachO

/-- Why so many bytes cannot be read at a position, and where that leaves the
cursor. -/
inductive Medium.Denies (medium : Medium) (position wanted : Nat) :
    (failure : Error) → (left : Nat) → Prop
  | untold (htell : medium.canTell = false) :
      Denies medium position wanted (.positionUnknown .positionUnknown)
        position
  | ended (htell : medium.canTell = true)
      (hover : medium.stop < position + wanted)
      (hend : medium.failsAt (max position medium.stop) = false) :
      Denies medium position wanted (.shortRead position wanted)
        (max position medium.stop)
  | broken (htell : medium.canTell = true)
      (hover : medium.stop < position + wanted)
      (hfails : medium.failsAt (max position medium.stop) = true) :
      Denies medium position wanted (.readFailure position .readFailed)
        (max position medium.stop)

theorem Stream.readSection_read_or_denied (stream : Stream) (width : Width) :
    (∃ header, stream.medium.canTell = true ∧
        stream.cursor + width.sectionHeaderSize ≤ stream.medium.stop ∧
        Section.decode stream.order
            ((stream.medium.data.drop stream.cursor).take
              width.sectionHeaderSize) width = .ok header ∧
          stream.readSection width =
            (.ok header,
              stream.moveTo (stream.cursor + width.sectionHeaderSize))) ∨
      ∃ failure left,
        stream.medium.Denies stream.cursor width.sectionHeaderSize failure
            left ∧
          stream.readSection width = (.error failure, stream.moveTo left) := by
  rcases stream.readSection_cases width with
    ⟨htell, hread⟩ | ⟨htell, hfits, header, hheader, hread⟩ |
      ⟨htell, hover, hread⟩
  · exact Or.inr ⟨_, _, .untold htell, hread⟩
  · exact Or.inl ⟨header, htell, hfits, hheader, hread⟩
  · rw [Medium.shortageAt_error] at hread
    cases hfails : stream.medium.failsAt
        (max stream.cursor stream.medium.stop) with
    | true =>
        rw [hfails, if_pos rfl] at hread
        exact Or.inr ⟨_, _, .broken htell hover hfails, hread⟩
    | false =>
        rw [hfails, if_neg Bool.false_ne_true] at hread
        exact Or.inr ⟨_, _, .ended htell hover hfails, hread⟩

namespace Scan

/-! ## One array -/

/-- What has come of reading an array of so many headers at the cursor. -/
structure ReadsArray (width : Width) (count index : Nat) (stream : Stream)
    (scan : Scan) : Prop where
  length_le : scan.sections.length ≤ count
  events_eq : scan.events =
    scan.sections.mapIdx fun i s => .sectionRead (index + i) s
  inside : ∀ i < scan.sections.length, stream.medium.canTell = true ∧
    stream.cursor + (i + 1) * width.sectionHeaderSize ≤ stream.medium.stop
  decoded : ∀ i s, scan.sections[i]? = some s →
    Section.decode stream.order
      ((stream.medium.data.drop
        (stream.cursor + i * width.sectionHeaderSize)).take
          width.sectionHeaderSize) width = .ok s
  ending :
    (scan.failure? = none ∧ scan.sections.length = count ∧
      scan.stream =
        stream.moveTo (stream.cursor + count * width.sectionHeaderSize)) ∨
    ∃ failure left, scan.failure? = some failure ∧
      scan.sections.length < count ∧
      stream.medium.Denies
        (stream.cursor + scan.sections.length * width.sectionHeaderSize)
        width.sectionHeaderSize failure left ∧
      scan.stream = stream.moveTo left

theorem readsArray_empty (width : Width) (index : Nat) (stream : Stream) :
    ReadsArray width 0 index stream (empty stream) where
  length_le := le_rfl
  events_eq := rfl
  inside _ hi := absurd hi (Nat.not_lt_zero _)
  decoded _ _ hget := by cases hget
  ending := by
    refine Or.inl ⟨rfl, rfl, ?_⟩
    rw [Nat.zero_mul, Nat.add_zero]
    rfl

theorem readsArray_failed {width : Width} {stream : Stream} {failure : Error}
    {left : Nat}
    (hdenies : stream.medium.Denies stream.cursor width.sectionHeaderSize
      failure left)
    (count index : Nat) :
    ReadsArray width (count + 1) index stream
      (failed failure (stream.moveTo left)) where
  length_le := Nat.zero_le _
  events_eq := rfl
  inside _ hi := absurd hi (Nat.not_lt_zero _)
  decoded _ _ hget := by cases hget
  ending := by
    refine Or.inr ⟨failure, left, rfl, Nat.succ_pos count, ?_, rfl⟩
    simpa only [failed, List.length_nil, Nat.zero_mul, Nat.add_zero] using
      hdenies

/-- One more header in front of an array, which starts where the header
ends. -/
theorem ReadsArray.cons {width : Width} {count index : Nat} {stream : Stream}
    {header : Section} {rest : Scan}
    (htell : stream.medium.canTell = true)
    (hfits : stream.cursor + width.sectionHeaderSize ≤ stream.medium.stop)
    (hheader : Section.decode stream.order
      ((stream.medium.data.drop stream.cursor).take width.sectionHeaderSize)
      width = .ok header)
    (hrest : ReadsArray width count (index + 1)
      (stream.moveTo (stream.cursor + width.sectionHeaderSize)) rest) :
    ReadsArray width (count + 1) index stream
      { rest with
        sections := header :: rest.sections
        events := .sectionRead index header :: rest.events } := by
  have hshift (i : Nat) : stream.cursor + width.sectionHeaderSize +
      i * width.sectionHeaderSize =
        stream.cursor + (i + 1) * width.sectionHeaderSize := by
    rw [Nat.succ_mul, Nat.add_right_comm, Nat.add_assoc]
  refine ⟨Nat.succ_le_succ hrest.length_le, ?_, ?_, ?_, ?_⟩
  · rw [List.mapIdx_cons, hrest.events_eq]
    simp only [Nat.add_zero, Nat.add_assoc, Nat.add_comm 1]
  · intro i hi
    refine ⟨htell, ?_⟩
    cases i with
    | zero => rwa [Nat.zero_add, Nat.one_mul]
    | succ i =>
        have hinside := (hrest.inside i (Nat.lt_of_succ_lt_succ hi)).2
        rw [Stream.medium_moveTo, Stream.cursor_moveTo] at hinside
        rwa [hshift] at hinside
  · intro i s hget
    cases i with
    | zero =>
        cases hget
        rwa [Nat.zero_mul, Nat.add_zero]
    | succ i =>
        have hdecoded := hrest.decoded i s hget
        rw [Stream.medium_moveTo, Stream.order_moveTo,
          Stream.cursor_moveTo] at hdecoded
        rwa [hshift] at hdecoded
  · rcases hrest.ending with
      ⟨hnone, hlength, hstream⟩ | ⟨failure, left, hsome, hlt, hdenies, hstream⟩
    · refine Or.inl ⟨hnone, congrArg Nat.succ hlength, ?_⟩
      rw [← hshift]
      exact hstream
    · refine Or.inr ⟨failure, left, hsome, Nat.succ_lt_succ hlt, ?_, hstream⟩
      rw [Stream.medium_moveTo, Stream.cursor_moveTo] at hdenies
      rwa [hshift] at hdenies

theorem readsArray_headers (width : Width) (count index : Nat)
    (stream : Stream) :
    ReadsArray width count index stream
      (headers width count index stream) := by
  induction count generalizing index stream with
  | zero => exact readsArray_empty width index stream
  | succ count ih =>
      rcases stream.readSection_read_or_denied width with
        ⟨header, htell, hfits, hheader, hread⟩ |
          ⟨failure, left, hdenies, hread⟩
      · rw [headers_succ_of_ok hread]
        exact .cons htell hfits hheader (ih (index + 1) _)
      · rw [headers_succ_of_error hread]
        exact readsArray_failed hdenies count index

end Scan

/-! ## One view -/

namespace View

/-- A view that is refused for what it says itself, whatever the medium. -/
inductive Refused (view : View) : (failure : Error) → Prop
  | unsupported (hform : ¬ (view.command = 0x1 ∨ view.command = 0x19)) :
      Refused view (.unsupportedCommand view.command)
  | overflow (hform : view.command = 0x1 ∨ view.command = 0x19)
      (hrange : 2 ^ 64 ≤ view.position + view.headerSize) :
      Refused view (.positionOverflow view.position view.headerSize)

/-- The size of a section header, by the form of the view. -/
def entrySize (view : View) : Nat :=
  match view.width? with
  | some width => width.sectionHeaderSize
  | none => 0

/-- Where the section headers end. -/
def finish (view : View) : Nat :=
  view.start + view.sectionCount.toNat * view.entrySize

variable {view : View}

theorem width?_eq_none_iff :
    view.width? = none ↔ ¬ (view.command = 0x1 ∨ view.command = 0x19) :=
  Width.ofSegmentCode?_eq_none_iff view.command

theorem entrySize_of_width? {width : Width}
    (hwidth : view.width? = some width) :
    view.entrySize = width.sectionHeaderSize := by
  simp only [entrySize, hwidth]

theorem refused_or_placed (view : View) :
    (∃ failure, view.Refused failure) ∨
      ∃ width, view.width? = some width ∧ view.start < addressableRange := by
  cases hwidth : view.width? with
  | none => exact Or.inl ⟨_, .unsupported (width?_eq_none_iff.mp hwidth)⟩
  | some width =>
      by_cases hrange : addressableRange ≤ view.start
      · have hform : view.command = 0x1 ∨ view.command = 0x19 := by
          by_contra hother
          rw [width?_eq_none_iff.mpr hother] at hwidth
          cases hwidth
        exact Or.inl ⟨_, .overflow hform hrange⟩
      · exact Or.inr ⟨width, rfl, Nat.not_le.mp hrange⟩

end View

namespace Scan

variable {view : View}

theorem segment_of_refused {failure : Error} (hrefused : view.Refused failure)
    (index : Nat) (stream : Stream) :
    segment view index stream = failed failure stream := by
  cases hrefused with
  | unsupported hform =>
      simp only [segment, View.width?_eq_none_iff.mpr hform]
  | overflow hform hrange =>
      cases hwidth : view.width? with
      | none => exact absurd hform (View.width?_eq_none_iff.mp hwidth)
      | some width =>
          have hstart : addressableRange ≤ view.start := hrange
          simp only [segment, hwidth, if_pos hstart]

theorem segment_of_seekFault? {width : Width}
    (hwidth : view.width? = some width)
    (hrange : view.start < addressableRange) {stream : Stream}
    {fault : DeviceFault}
    (hseek : stream.medium.seekFault? view.start = some fault)
    (index : Nat) :
    segment view index stream =
      ⟨[], [.reading view.sectionCount width view.start],
        some (.seekFailure view.start fault), stream⟩ := by
  simp only [segment, hwidth, if_neg (Nat.not_le.mpr hrange), Stream.seek,
    hseek]

theorem segment_of_seekFault?_eq_none {width : Width}
    (hwidth : view.width? = some width)
    (hrange : view.start < addressableRange) {stream : Stream}
    (hseek : stream.medium.seekFault? view.start = none) (index : Nat) :
    segment view index stream =
      let run := headers width view.sectionCount.toNat index
        (stream.moveTo view.start)
      { run with
        events :=
          .reading view.sectionCount width view.start :: run.events } := by
  simp only [segment, hwidth, if_neg (Nat.not_le.mpr hrange), Stream.seek,
    hseek]
  rfl

end Scan

/-- How a failing view leaves the cursor, which it found at a place. -/
inductive View.Leaves (view : View) (medium : Medium) (found : Nat) :
    (failure : Error) → (left : Nat) → Prop
  | refused {failure : Error} (hrefused : view.Refused failure) :
      Leaves view medium found failure found
  | unreached {fault : DeviceFault}
      (hseek : medium.seekFault? view.start = some fault) :
      Leaves view medium found (.seekFailure view.start fault) found
  | untold (hcount : 0 < view.sectionCount.toNat)
      (htell : medium.canTell = false) :
      Leaves view medium found (.positionUnknown .positionUnknown) view.start
  | ended {i : Nat} (hi : i < view.sectionCount.toNat)
      (hover : medium.stop < view.start + (i + 1) * view.entrySize) :
      Leaves view medium found
        (.shortRead (view.start + i * view.entrySize) view.entrySize)
        (max (view.start + i * view.entrySize) medium.stop)
  | broken {i : Nat} (hi : i < view.sectionCount.toNat)
      (hover : medium.stop < view.start + (i + 1) * view.entrySize) :
      Leaves view medium found
        (.readFailure (view.start + i * view.entrySize) .readFailed)
        (max (view.start + i * view.entrySize) medium.stop)

namespace Scan

/-- A view is read to the end of its array, or fails and leaves the cursor by
its error. -/
theorem segment_finishes_or_leaves (view : View) (index : Nat)
    (stream : Stream) :
    ((segment view index stream).failure? = none ∧
        (segment view index stream).stream = stream.moveTo view.finish) ∨
      ∃ failure left, (segment view index stream).failure? = some failure ∧
        view.Leaves stream.medium stream.cursor failure left ∧
        (segment view index stream).stream = stream.moveTo left := by
  rcases view.refused_or_placed with ⟨failure, hrefused⟩ |
    ⟨width, hwidth, hrange⟩
  · rw [segment_of_refused hrefused]
    exact Or.inr ⟨failure, stream.cursor, rfl, .refused hrefused, rfl⟩
  cases hseek : stream.medium.seekFault? view.start with
  | some fault =>
      rw [segment_of_seekFault? hwidth hrange hseek]
      exact Or.inr ⟨_, stream.cursor, rfl, .unreached hseek, rfl⟩
  | none =>
      have hsize := View.entrySize_of_width? hwidth
      have hreads := readsArray_headers width view.sectionCount.toNat index
        (stream.moveTo view.start)
      rw [segment_of_seekFault?_eq_none hwidth hrange hseek]
      rcases hreads.ending with
        ⟨hnone, _, hstream⟩ | ⟨failure, left, hsome, hlt, hdenies, hstream⟩
      · refine Or.inl ⟨hnone, ?_⟩
        rw [View.finish, hsize]
        exact hstream
      · refine Or.inr ⟨failure, left, hsome, ?_, hstream⟩
        rw [Stream.medium_moveTo, Stream.cursor_moveTo, ← hsize] at hdenies
        cases hdenies with
        | untold htell =>
            -- Where the position is not told, not even one header was read.
            have hnone : (headers width view.sectionCount.toNat index
                (stream.moveTo view.start)).sections.length = 0 := by
              by_contra hne
              have htold := (hreads.inside 0 (Nat.pos_of_ne_zero hne)).1
              exact Bool.false_ne_true (htell.symm.trans htold)
            rw [hnone] at hlt ⊢
            rw [Nat.zero_mul, Nat.add_zero]
            exact .untold hlt htell
        | ended htell hover hend =>
            exact .ended hlt (by rwa [Nat.succ_mul, ← Nat.add_assoc])
        | broken htell hover hfails =>
            exact .broken hlt (by rwa [Nat.succ_mul, ← Nat.add_assoc])

/-! ## Many views -/

theorem segments_append (first second : List View) (index : Nat)
    (stream : Stream) :
    segments (first ++ second) index stream =
      let run := segments first index stream
      match run.failure? with
      | some _ => run
      | none =>
          run.followedBy
            (segments second (index + run.sections.length) run.stream) := by
  induction first generalizing index stream with
  | nil => rfl
  | cons view views ih =>
      cases hfailure : (segment view index stream).failure? with
      | some failure =>
          simp only [List.cons_append, segments, hfailure]
      | none =>
          simp only [List.cons_append, segments, hfailure, ih]
          cases hrest : (segments views
              (index + (segment view index stream).sections.length)
              (segment view index stream).stream).failure? with
          | some failure => simp only [followedBy, hrest]
          | none =>
              simp only [followedBy, hrest, List.append_assoc,
                List.length_append, Nat.add_assoc]

theorem segments_append_of_ok {first : List View} {index : Nat}
    {stream : Stream}
    (hnone : (segments first index stream).failure? = none)
    (second : List View) :
    segments (first ++ second) index stream =
      (segments first index stream).followedBy
        (segments second
          (index + (segments first index stream).sections.length)
          (segments first index stream).stream) := by
  rw [segments_append]
  simp only [hnone]

theorem segments_cons_of_error {view : View} {index : Nat} {stream : Stream}
    {failure : Error}
    (hfailure : (segment view index stream).failure? = some failure)
    (views : List View) :
    segments (view :: views) index stream = segment view index stream := by
  simp only [segments, hfailure]

theorem segments_cons_of_ok {view : View} {index : Nat} {stream : Stream}
    (hnone : (segment view index stream).failure? = none)
    (views : List View) :
    segments (view :: views) index stream =
      (segment view index stream).followedBy
        (segments views
          (index + (segment view index stream).sections.length)
          (segment view index stream).stream) := by
  simp only [segments, hnone]

/-- A scan that fails has read the views before the first one that fails, and
does not touch the ones after it. -/
theorem segments_ok_or_first_failure (views : List View) (index : Nat)
    (stream : Stream) :
    (segments views index stream).failure? = none ∨
      ∃ before view after failure, views = before ++ view :: after ∧
        let run := segments before index stream
        let last := segment view (index + run.sections.length) run.stream
        run.failure? = none ∧ last.failure? = some failure ∧
          ∀ rest, segments (before ++ view :: rest) index stream =
            run.followedBy last := by
  induction views using List.reverseRecOn with
  | nil => exact Or.inl rfl
  | append_singleton views view ih =>
      rcases ih with hnone | ⟨before, other, after, failure, rfl, hfirst⟩
      · let run := segments views index stream
        cases hlast : (segment view (index + run.sections.length)
            run.stream).failure? with
        | none =>
            left
            rw [segments_append_of_ok hnone, segments_cons_of_ok hlast]
            rfl
        | some failure =>
            refine Or.inr ⟨views, view, [], failure, rfl, hnone, hlast, ?_⟩
            intro rest
            rw [segments_append_of_ok hnone, segments_cons_of_error hlast]
      · exact Or.inr ⟨before, other, after ++ [view], failure, by simp,
          hfirst⟩

end Scan

/-- Where the cursor stands behind views that have been read, or where it was
if there are none. -/
def View.leftBehind (cursor : Nat) (views : List View) : Nat :=
  (views.getLast?.map finish).getD cursor

theorem Scan.stream_segments_of_ok {views : List View} {index : Nat}
    {stream : Stream}
    (hnone : (segments views index stream).failure? = none) :
    (segments views index stream).stream =
      stream.moveTo (View.leftBehind stream.cursor views) := by
  induction views using List.reverseRecOn with
  | nil => rfl
  | append_singleton views view ih =>
      have hlast : View.leftBehind stream.cursor (views ++ [view]) =
          view.finish := by
        simp [View.leftBehind]
      rw [hlast]
      rw [segments_append] at hnone ⊢
      cases hviews : (segments views index stream).failure? with
      | some failure => simp [hviews] at hnone
      | none =>
          simp only [hviews, followedBy] at hnone ⊢
          rcases segment_finishes_or_leaves view
              (index + (segments views index stream).sections.length)
              (segments views index stream).stream with
            ⟨hfinishes, hstream⟩ | ⟨failure, _, hfails, _⟩
          · rw [segments_cons_of_ok hfinishes]
            exact hstream.trans (by rw [ih hviews, Stream.moveTo_moveTo])
          · rw [segments_cons_of_error hfails, hfails] at hnone
            cases hnone

/-- A scan has read all views, or the first failing view has left the cursor by
its error and nothing has come after it. -/
theorem Scan.segments_finish_or_leave (views : List View) (index : Nat)
    (stream : Stream) :
    (segments views index stream).failure? = none ∨
      ∃ before view after failure left, views = before ++ view :: after ∧
        (segments before index stream).failure? = none ∧
        view.Leaves stream.medium (View.leftBehind stream.cursor before)
          failure left ∧
        (segments views index stream).failure? = some failure ∧
        (segments views index stream).stream = stream.moveTo left ∧
        ∀ rest, segments (before ++ view :: rest) index stream =
          segments views index stream := by
  rcases segments_ok_or_first_failure views index stream with
    hnone | ⟨before, view, after, failure, rfl, hbefore, hlast, hrest⟩
  · exact Or.inl hnone
  · right
    rcases segment_finishes_or_leaves view
        (index + (segments before index stream).sections.length)
        (segments before index stream).stream with
      ⟨hfinishes, _⟩ | ⟨other, left, hother, hleaves, hstream⟩
    · rw [hfinishes] at hlast
      cases hlast
    · have hfound := stream_segments_of_ok hbefore
      rw [hfound, Stream.medium_moveTo, Stream.cursor_moveTo] at hleaves
      refine ⟨before, view, after, other, left, rfl, hbefore, hleaves, ?_, ?_,
        fun rest => (hrest rest).trans (hrest after).symm⟩
      · rw [hrest after]
        exact hother
      · rw [hrest after]
        exact hstream.trans (by rw [hfound, Stream.moveTo_moveTo])

namespace SectionTable

theorem build_ofStream (views : List View) (stream : Stream) :
    build views (.ofStream stream) =
      let scan := Scan.segments views 0 stream
      match scan.failure? with
      | some failure => ⟨scan.events, .error failure, .ofStream scan.stream⟩
      | none =>
          ⟨scan.events ++ [.built scan.sections.length views.length],
            .ok ⟨scan.sections⟩, .ofStream scan.stream⟩ := rfl

theorem build_of_ok {views : List View} {stream : Stream}
    (hnone : (Scan.segments views 0 stream).failure? = none) :
    build views (.ofStream stream) =
      ⟨(Scan.segments views 0 stream).events ++
          [.built (Scan.segments views 0 stream).sections.length
            views.length],
        .ok ⟨(Scan.segments views 0 stream).sections⟩,
        .ofStream (Scan.segments views 0 stream).stream⟩ := by
  rw [build_ofStream]
  simp only [hnone]

theorem build_of_error {views : List View} {stream : Stream} {failure : Error}
    (hfailure : (Scan.segments views 0 stream).failure? = some failure) :
    build views (.ofStream stream) =
      ⟨(Scan.segments views 0 stream).events, .error failure,
        .ofStream (Scan.segments views 0 stream).stream⟩ := by
  rw [build_ofStream]
  simp only [hfailure]

theorem build_of_refused {view : View} {failure : Error}
    (hrefused : view.Refused failure) (stream : Stream) :
    build [view] (.ofStream stream) =
      ⟨[], .error failure, .ofStream stream⟩ := by
  have hsegment := Scan.segment_of_refused hrefused 0 stream
  have hfailure : (Scan.segment view 0 stream).failure? = some failure := by
    rw [hsegment]
    rfl
  have hscan := Scan.segments_cons_of_error hfailure []
  rw [build_of_error (by rw [hscan, hfailure]), hscan, hsegment]
  rfl

/-- A build gives the stream back as it was, the cursor apart: behind the last
array, or where the first failing view left it, while the views after that one
are not touched.  A view that is refused for what it says itself is refused
over every stream, which it leaves alone. -/
theorem build_leaves_cursor (views : List View) (stream : Stream) :
    let building := build views (.ofStream stream)
    (∃ left, building.shared = .ofStream (stream.moveTo left) ∧
      match building.result with
      | .ok _ => left = View.leftBehind stream.cursor views
      | .error failure =>
          ∃ before view after, views = before ++ view :: after ∧
            (∃ table, (build before (.ofStream stream)).result = .ok table) ∧
            view.Leaves stream.medium (View.leftBehind stream.cursor before)
              failure left ∧
            ∀ rest,
              build (before ++ view :: rest) (.ofStream stream) = building) ∧
    ∀ view failure, View.Refused view failure →
      ∀ other : Stream, build [view] (.ofStream other) =
        ⟨[], .error failure, .ofStream other⟩ := by
  intro building
  refine ⟨?_, fun view failure hrefused => build_of_refused hrefused⟩
  rcases Scan.segments_finish_or_leave views 0 stream with
    hnone | ⟨before, view, after, failure, left, hviews, hbefore, hleaves,
      hfailure, hstream, hrest⟩
  · have hbuilding : building = _ := build_of_ok hnone
    rw [hbuilding, Scan.stream_segments_of_ok hnone]
    exact ⟨_, rfl, rfl⟩
  · have hbuilding : building = _ := build_of_error hfailure
    refine ⟨left, ?_, ?_⟩
    · rw [hbuilding, hstream]
    · rw [hbuilding]
      refine ⟨before, view, after, hviews,
        ⟨_, congrArg Building.result (build_of_ok hbefore)⟩, hleaves, ?_⟩
      intro rest
      rw [build_of_error (by rw [hrest rest, hfailure]), hrest rest]

/-- A medium that refuses positions behind its end, after some use. -/
def guarded : Stream :=
  ⟨⟨List.replicate 200 0, true, true, true, none, none⟩, .little, 7⟩

def outOfRange : View :=
  ⟨0xffffffffffffffff, 56, 1, 0x1⟩

/-- Of three views the second one is refused, and the cursor stays behind the
one header of the first. -/
theorem build_leaves_cursor_outOfRange :
    let building :=
      build [⟨0, 56, 1, 0x1⟩, outOfRange, ⟨0, 0, 0, 0x1⟩] (.ofStream guarded)
    building.result = .error (.positionOverflow 0xffffffffffffffff 56) ∧
      building.shared = .ofStream (guarded.moveTo 124) ∧
      View.Refused outOfRange (.positionOverflow 0xffffffffffffffff 56) ∧
      build [outOfRange] (.ofStream guarded) =
        ⟨[], .error (.positionOverflow 0xffffffffffffffff 56),
          .ofStream guarded⟩ := by
  have hrefused :
      View.Refused outOfRange (.positionOverflow 0xffffffffffffffff 56) :=
    .overflow (by decide) (by decide)
  refine ⟨by decide +kernel, by decide +kernel, hrefused, ?_⟩
  exact (build_leaves_cursor [] guarded).2 outOfRange _ hrefused guarded

end SectionTable

end MachO
