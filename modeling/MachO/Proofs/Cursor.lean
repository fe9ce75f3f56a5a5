import MachO.Proofs.RandomAccess

/-!
# Operations and the cursor

Whether it succeeds or fails, an operation on a stream moves at most the
cursor, and the lock of a shared stream is afterwards as it was before.  The
cursor in turn has no influence on what the operations of a table find: a
table is built, and contents are read, by going to a place before anything is
taken from there.
-/

namespace MachO

namespace Stream

def moveTo (stream : Stream) (cursor : Nat) : Stream :=
  { stream with cursor := cursor }

@[simp] theorem medium_moveTo (stream : Stream) (cursor : Nat) :
    (stream.moveTo cursor).medium = stream.medium := rfl

@[simp] theorem order_moveTo (stream : Stream) (cursor : Nat) :
    (stream.moveTo cursor).order = stream.order := rfl

@[simp] theorem cursor_moveTo (stream : Stream) (cursor : Nat) :
    (stream.moveTo cursor).cursor = cursor := rfl

@[simp] theorem moveTo_moveTo (stream : Stream) (first second : Nat) :
    (stream.moveTo first).moveTo second = stream.moveTo second := rfl

theorem eq_moveTo {first second : Stream}
    (hmedium : first.medium = second.medium)
    (horder : first.order = second.order) :
    first = second.moveTo first.cursor := by
  cases first
  cases hmedium
  cases horder
  rfl

variable {α : Type}

/-- The operation leaves a stream as it is, the cursor apart. -/
def MovesCursor (operation : Stream → Except Error α × Stream) : Prop :=
  ∀ stream, ∃ cursor, (operation stream).2 = stream.moveTo cursor

theorem movesCursor_inspect (result : Stream → Except Error α) :
    MovesCursor fun stream => (result stream, stream) :=
  fun stream => ⟨stream.cursor, rfl⟩

theorem movesCursor_seek (position : Nat) :
    MovesCursor fun stream => stream.seek position := by
  intro stream
  cases hseek : stream.medium.seekFault? position with
  | some fault => exact ⟨stream.cursor, by simp only [seek, hseek]; rfl⟩
  | none => exact ⟨position, by simp only [seek, hseek]; rfl⟩

theorem movesCursor_read (count : Nat) :
    MovesCursor fun stream => stream.read count := by
  intro stream
  cases htell : stream.tell with
  | error failure =>
      exact ⟨stream.cursor, by simp only [read, htell]; rfl⟩
  | ok position =>
      refine ⟨position + (stream.medium.drain position count).bytes.length, ?_⟩
      simp only [read, htell]
      split
      · rfl
      · split <;> rfl

theorem movesCursor_readSection (width : Width) :
    MovesCursor fun stream => stream.readSection width := by
  intro stream
  rcases stream.readSection_cases width with
    ⟨_, hread⟩ | ⟨_, _, header, _, hread⟩ | ⟨_, _, hread⟩
  · exact ⟨stream.cursor, by simp only [hread]; rfl⟩
  · exact ⟨stream.cursor + width.sectionHeaderSize, by
      simp only [hread]; rfl⟩
  · exact ⟨max stream.cursor stream.medium.stop, by simp only [hread]; rfl⟩

end Stream

theorem Scan.frame_segments (views : List View) (index : Nat)
    (stream : Stream) :
    (segments views index stream).stream.medium = stream.medium ∧
      (segments views index stream).stream.order = stream.order := by
  induction views generalizing index stream with
  | nil => exact ⟨rfl, rfl⟩
  | cons view views ih =>
      have hfirst := frame_segment view index stream
      cases hfailure : (segment view index stream).failure? with
      | some failure =>
          simp only [segments, hfailure]
          exact hfirst
      | none =>
          obtain ⟨hmedium, horder⟩ := ih
            (index + (segment view index stream).sections.length)
            (segment view index stream).stream
          simp only [segments, hfailure, followedBy]
          exact ⟨hmedium.trans hfirst.1, horder.trans hfirst.2⟩

namespace SharedStream

variable {α : Type} {operation : Stream → Except Error α × Stream}

def moveTo (shared : SharedStream) (cursor : Nat) : SharedStream :=
  { shared with stream := shared.stream.moveTo cursor }

theorem exists_within (hmoves : Stream.MovesCursor operation)
    (shared : SharedStream) :
    ∃ cursor, (shared.within operation).2 = shared.moveTo cursor := by
  obtain ⟨cursor, hafter⟩ := hmoves shared.stream
  exact ⟨cursor, by simp only [within, hafter]; rfl⟩

theorem eq_ofStream {shared : SharedStream}
    (hfree : shared.locked = false) :
    shared = .ofStream shared.stream := by
  cases shared
  cases hfree
  rfl

theorem exclusively_of_locked {shared : SharedStream}
    (hlocked : shared.locked = true) :
    shared.exclusively operation = (.error .handleInUse, shared) := by
  simp only [exclusively, acquire, hlocked, if_true]

theorem exclusively_of_free {shared : SharedStream}
    (hfree : shared.locked = false) :
    shared.exclusively operation =
      ((operation shared.stream).1,
        { shared with stream := (operation shared.stream).2 }) := by
  simp only [exclusively, acquire, hfree, Bool.false_eq_true, if_false,
    within, release]

theorem exists_exclusively (hmoves : Stream.MovesCursor operation)
    (shared : SharedStream) :
    ∃ cursor, (shared.exclusively operation).2 = shared.moveTo cursor := by
  cases hlocked : shared.locked with
  | true =>
      rw [exclusively_of_locked hlocked]
      exact ⟨shared.stream.cursor, rfl⟩
  | false =>
      obtain ⟨cursor, hafter⟩ := hmoves shared.stream
      rw [exclusively_of_free hlocked]
      exact ⟨cursor, by simp only [hafter]; rfl⟩

end SharedStream

namespace SectionTable

theorem build_of_locked {shared : SharedStream}
    (hlocked : shared.locked = true) (views : List View) :
    build views shared = ⟨[], .error .handleInUse, shared⟩ := by
  simp only [build, SharedStream.acquire, hlocked, if_true]

theorem exists_build_shared (views : List View) (shared : SharedStream) :
    ∃ cursor, (build views shared).shared = shared.moveTo cursor := by
  cases hlocked : shared.locked with
  | true =>
      rw [build_of_locked hlocked]
      exact ⟨shared.stream.cursor, rfl⟩
  | false =>
      obtain ⟨hmedium, horder⟩ := Scan.frame_segments views 0 shared.stream
      refine ⟨(Scan.segments views 0 shared.stream).stream.cursor, ?_⟩
      have hstream := Stream.eq_moveTo hmedium horder
      cases hfailure : (Scan.segments views 0 shared.stream).failure? <;>
        simp only [build, SharedStream.acquire, hlocked, Bool.false_eq_true,
          if_false, hfailure, SharedStream.release, SharedStream.moveTo,
          ← hstream]

theorem movesCursor_readContents (s : Section) :
    Stream.MovesCursor (readContents s) := by
  intro stream
  cases hseek : stream.medium.seekFault? s.offset with
  | some fault =>
      exact ⟨stream.cursor, by
        simp only [readContents, Stream.seek, hseek]; rfl⟩
  | none =>
      obtain ⟨cursor, hafter⟩ :=
        Stream.movesCursor_read s.size (stream.moveTo s.offset)
      refine ⟨cursor, ?_⟩
      simp only [readContents, Stream.seek, hseek]
      exact hafter

/-! ### What asking for contents comes to -/

variable {table : SectionTable} {index : Nat} {s : Section}

theorem contents_of_none (hget : table.get? index = none)
    (shared : SharedStream) :
    table.contents index shared = (.ok none, shared) := by
  simp only [contents, hget]

theorem contents_of_zeroFill (hget : table.get? index = some s)
    (hzero : s.isZeroFill = true) (shared : SharedStream) :
    table.contents index shared = (.ok (some []), shared) := by
  simp only [contents, hget, hzero, if_true]

theorem contents_of_stored (hget : table.get? index = some s)
    (hzero : s.isZeroFill = false) (shared : SharedStream) :
    table.contents index shared =
      ((shared.exclusively (readContents s)).1.map some,
        (shared.exclusively (readContents s)).2) := by
  simp only [contents, hget, hzero, Bool.false_eq_true, if_false]

theorem exists_contents_shared (table : SectionTable) (index : Nat)
    (shared : SharedStream) :
    ∃ cursor, (table.contents index shared).2 = shared.moveTo cursor := by
  cases hget : table.get? index with
  | none =>
      rw [contents_of_none hget]
      exact ⟨shared.stream.cursor, rfl⟩
  | some s =>
      cases hzero : s.isZeroFill with
      | true =>
          rw [contents_of_zeroFill hget hzero]
          exact ⟨shared.stream.cursor, rfl⟩
      | false =>
          rw [contents_of_stored hget hzero]
          exact SharedStream.exists_exclusively
            (movesCursor_readContents s) shared

/-! ## The cursor has no influence -/

theorem result_build_moveTo (views : List View) (stream : Stream)
    (cursor : Nat) :
    (build views (.ofStream (stream.moveTo cursor))).result =
      (build views (.ofStream stream)).result := by
  rw [result_build, result_build, Scan.outcome_segments,
    Scan.outcome_segments]
  rfl

theorem readContents_moveTo (s : Section) (stream : Stream) (cursor : Nat) :
    (readContents s (stream.moveTo cursor)).1 = (readContents s stream).1 := by
  cases hseek : stream.medium.seekFault? s.offset <;>
    simp only [readContents, Stream.seek, Stream.moveTo, hseek]

theorem contents_moveTo (table : SectionTable) (index : Nat)
    (stream : Stream) (cursor : Nat) :
    (table.contents index (.ofStream (stream.moveTo cursor))).1 =
      (table.contents index (.ofStream stream)).1 := by
  cases hget : table.get? index with
  | none => rw [contents_of_none hget, contents_of_none hget]
  | some s =>
      cases hzero : s.isZeroFill with
      | true =>
          rw [contents_of_zeroFill hget hzero, contents_of_zeroFill hget hzero]
      | false =>
          rw [contents_of_stored hget hzero, contents_of_stored hget hzero,
            SharedStream.exclusively_of_free rfl,
            SharedStream.exclusively_of_free rfl]
          simp only [SharedStream.ofStream, readContents_moveTo]

end SectionTable

end MachO
