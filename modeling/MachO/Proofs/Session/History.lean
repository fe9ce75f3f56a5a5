import MachO.Proofs.Session.Locks

/-!
# Histories of a session

What was done to a stream before, through which of its slots, and whether it
went well, failed midway or broke off under the lock, does not show in later
answers.  A session keeps of every stream the byte order and the medium that
it was started with, and loses only the cursor; building a table and reading
contents seek before they read, so they cannot tell the stream from one that
was just started.
-/

namespace MachO

/-- What a step starts a stream from. -/
def Step.origin? : Step → Option (ByteOrder × Medium)
  | .start order medium => some (order, medium)
  | _ => none

/-- The answer less the number of a table, which counts the tables before
it. -/
def Answer.unnumbered : Answer → Answer
  | .table _ built sameStream => .table 0 built sameStream
  | answer => answer

def SharedStream.origin (shared : SharedStream) : ByteOrder × Medium :=
  (shared.stream.order, shared.stream.medium)

namespace Session

/-- What the streams of a history are started from, by their numbers. -/
def origins (history : List Step) : List (ByteOrder × Medium) :=
  history.filterMap Step.origin?

/-- The session of one stream that was just started. -/
def fresh (order : ByteOrder) (medium : Medium) : Session :=
  (empty.step (.start order medium)).2

/-- The same with a table of its own. -/
def freshWith (order : ByteOrder) (medium : Medium) (table : SectionTable) :
    Session :=
  { fresh order medium with tables := [⟨0, table⟩] }

variable {session : Session} {number : Nat} {slot : Slot}
  {shared : SharedStream}

/-! ## Origins are kept -/

theorem Effect.map_origin {step : Step} {result : Answer × Session}
    (heffect : session.Effect step result) (horigin : step.origin? = none) :
    result.2.streams.map SharedStream.origin =
      session.streams.map SharedStream.origin := by
  cases heffect with
  | start => cases horigin
  | cursor _ _ _ hshared | table _ _ _ _ hshared | hold _ hshared
  | drop _ hshared =>
      exact map_set_of_getElem? hshared rfl
  | _ => rfl

theorem map_origin_step (session : Session) (step : Step) :
    (session.step step).2.streams.map SharedStream.origin =
      session.streams.map SharedStream.origin ++ step.origin?.toList := by
  cases horigin : step.origin? with
  | none =>
      rw [(session.effect_step step).map_origin horigin]
      simp
  | some origin =>
      cases step with
      | start order medium =>
          cases horigin
          simp [Session.step, SharedStream.origin, SharedStream.ofStream,
            Stream.start]
      | _ => cases horigin

theorem map_origin_run (session : Session) (steps : List Step) :
    (session.run steps).2.streams.map SharedStream.origin =
      session.streams.map SharedStream.origin ++ origins steps := by
  induction steps generalizing session with
  | nil => simp [run, origins]
  | cons step steps ih =>
      have hrest := ih (session.step step).2
      rw [map_origin_step, List.append_assoc] at hrest
      rw [show (session.run (step :: steps)).2 =
        ((session.step step).2.run steps).2 from rfl, hrest]
      cases horigin : step.origin? <;>
        simp [origins, horigin]

/-- A stream that is in use was started in the history, and it differs from
the stream of that time in its cursor and its lock at most. -/
theorem exists_origin (history : List Step) {k : Nat}
    (huses : (empty.run history).2.Uses k) :
    ∃ order medium, (origins history)[k]? = some (order, medium) ∧
      ∃ cursor locked, (empty.run history).2.streams[k]? =
        some ⟨(Stream.start order medium).moveTo cursor, locked⟩ := by
  have hk := (Sound.empty.run history).known k huses
  have hshared := List.getElem?_eq_getElem hk
  have horigins := map_origin_run empty history
  have horigin : (origins history)[k]? =
      some ((empty.run history).2.streams[k]).origin := by
    rw [show empty.streams.map SharedStream.origin = [] from rfl,
      List.nil_append] at horigins
    rw [← horigins, List.getElem?_map, hshared]
    rfl
  exact ⟨_, _, horigin, _, _, hshared⟩

/-! ## Answers from a stream that is free -/

theorem answer_build (hslot : session.slots[number]? = some slot)
    (hshared : session.streams[slot.stream]? = some shared)
    (views : List View) :
    (session.build number views).1 =
      match (SectionTable.build views shared).result with
      | .error failure => .failed failure
      | .ok table => .table session.tables.length table true := by
  simp only [build, slot?_of_getElem? hslot hshared, decide_true]
  cases (SectionTable.build views shared).result <;> rfl

theorem answer_contents {sourced : SourcedTable}
    (htable : session.tables[number]? = some sourced)
    (hshared : session.streams[sourced.stream]? = some shared)
    (index : Nat) :
    (session.contents number index).1 =
      Answer.ofResult (Answer.ofFound Answer.bytes)
        (sourced.table.contents index shared).1 := by
  simp only [contents, table?_of_getElem? htable hshared]

theorem build_forgets (hslot : session.slots[number]? = some slot)
    {order : ByteOrder} {medium : Medium} {cursor : Nat} {locked : Bool}
    (hshared : session.streams[slot.stream]? =
      some ⟨(Stream.start order medium).moveTo cursor, locked⟩)
    {views : List View}
    (hanswer : (session.build number views).1 ≠ .failed .handleInUse) :
    (session.build number views).1.unnumbered =
      ((fresh order medium).step (.build 0 views)).1 := by
  have hfree : locked = false := by
    by_contra hlocked
    rw [Bool.not_eq_false] at hlocked
    rw [answer_build hslot hshared,
      SectionTable.build_of_locked hlocked] at hanswer
    exact hanswer rfl
  subst hfree
  have hfirst : (fresh order medium).slots[0]? = some ⟨0, false⟩ := rfl
  have hfresh : ((fresh order medium).build 0 views).1 =
      match (SectionTable.build views
        (.ofStream (.start order medium))).result with
      | .error failure => .failed failure
      | .ok table => .table 0 table true :=
    answer_build hfirst rfl views
  have hresult := SectionTable.result_build_moveTo views
    (Stream.start order medium) cursor
  simp only [SharedStream.ofStream] at hresult hfresh
  simp only [Session.step]
  rw [hfresh, answer_build hslot hshared, hresult]
  cases (SectionTable.build views ⟨.start order medium, false⟩).result <;> rfl

theorem contents_forgets {sourced : SourcedTable}
    (htable : session.tables[number]? = some sourced)
    {order : ByteOrder} {medium : Medium} {cursor : Nat} {locked : Bool}
    (hshared : session.streams[sourced.stream]? =
      some ⟨(Stream.start order medium).moveTo cursor, locked⟩)
    {index : Nat}
    (hanswer : (session.contents number index).1 ≠ .failed .handleInUse) :
    (session.contents number index).1 =
      ((freshWith order medium sourced.table).step (.contents 0 index)).1 := by
  have hfirst : (freshWith order medium sourced.table).tables[0]? =
      some ⟨0, sourced.table⟩ := rfl
  have hfresh : ((freshWith order medium sourced.table).contents 0 index).1 =
      Answer.ofResult (Answer.ofFound Answer.bytes)
        (sourced.table.contents index (.ofStream (.start order medium))).1 :=
    answer_contents hfirst rfl index
  have hforget := sourced.table.contents_moveTo index
    (Stream.start order medium) cursor
  simp only [Session.step]
  rw [hfresh, answer_contents htable hshared, ← hforget]
  -- Where the lock is looked at, it is free; elsewhere it makes no difference.
  cases hget : sourced.table.get? index with
  | none =>
      simp only [SectionTable.contents_of_none hget]
  | some s =>
      cases hzero : s.isZeroFill with
      | true => simp only [SectionTable.contents_of_zeroFill hget hzero]
      | false =>
          cases locked with
          | true =>
              rw [answer_contents htable hshared,
                SectionTable.contents_of_stored hget hzero,
                SharedStream.exclusively_of_locked rfl] at hanswer
              exact absurd rfl hanswer
          | false => rfl

/-- Whatever the history, a table that is built and contents that are read come
out as if nothing had been done before with a stream of the same origin,
unless somebody holds its lock. -/
theorem answers_forget_history (history : List Step) :
    let session := (empty.run history).2
    (∀ (number : Nat) (slot : Slot), session.slots[number]? = some slot →
      ∃ order medium,
        (origins history)[slot.stream]? = some (order, medium) ∧
          (∀ views,
            (session.step (.build number views)).1 ≠ .failed .handleInUse →
              (session.step (.build number views)).1.unnumbered =
                ((fresh order medium).step (.build 0 views)).1) ∧
          ∀ (place : Nat) (image : Image),
            session.images[place]? = some image →
            (session.step (.buildImage number place)).1 ≠
                .failed .handleInUse →
              (session.step (.buildImage number place)).1.unnumbered =
                ((fresh order medium).step
                  (.build 0 (image.segments.map Segment.view))).1) ∧
      ∀ (number : Nat) (sourced : SourcedTable),
        session.tables[number]? = some sourced →
        ∃ order medium,
          (origins history)[sourced.stream]? = some (order, medium) ∧
            ∀ index,
              (session.step (.contents number index)).1 ≠
                  .failed .handleInUse →
                (session.step (.contents number index)).1 =
                  ((freshWith order medium sourced.table).step
                    (.contents 0 index)).1 := by
  intro session
  refine ⟨fun number slot hslot => ?_, fun number sourced htable => ?_⟩
  · obtain ⟨order, medium, horigin, cursor, locked, hshared⟩ :=
      exists_origin history (uses_of_slot hslot)
    refine ⟨order, medium, horigin, fun views => ?_,
      fun place image himage => ?_⟩
    · exact build_forgets hslot hshared
    · simp only [Session.step, himage]
      exact build_forgets hslot hshared
  · obtain ⟨order, medium, horigin, cursor, locked, hshared⟩ :=
      exists_origin history (uses_of_table htable)
    exact ⟨order, medium, horigin, fun index =>
      contents_forgets htable hshared⟩

/-- A stream from which a table was built and that was then held, read until
nothing was left, and broken off in the middle of a header. -/
def worn : List Step :=
  [.start .big (.ofBytes (List.replicate 70 2)), .build 0 [⟨0, 2, 1, 0x1⟩],
    .share 0, .hold 1, .readSection 1 .bits32, .drop 1, .breakOff 0 9]

theorem answers_forget_history_worn :
    ((empty.run worn).2.step (.build 1 [⟨0, 1, 1, 0x1⟩])).1.unnumbered =
        ((fresh .big (.ofBytes (List.replicate 70 2))).step
          (.build 0 [⟨0, 1, 1, 0x1⟩])).1 ∧
      ∃ table, ((empty.run worn).2.step (.contents 0 0)).1 =
        ((freshWith .big (.ofBytes (List.replicate 70 2)) table).step
          (.contents 0 0)).1 := by
  have hslot : (empty.run worn).2.slots[1]? = some ⟨0, false⟩ := by
    decide +kernel
  have hstream : ((empty.run worn).2.tables[0]?).map SourcedTable.stream =
      some 0 := by
    decide +kernel
  obtain ⟨⟨_, table⟩, htable, rfl⟩ := Option.map_eq_some_iff.mp hstream
  obtain ⟨hslots, htables⟩ := answers_forget_history worn
  obtain ⟨_, _, horigin, hbuild, _⟩ := hslots 1 _ hslot
  cases horigin
  obtain ⟨_, _, horigin, hcontents⟩ := htables 0 _ htable
  cases horigin
  refine ⟨hbuild _ ?_, table, hcontents 0 ?_⟩
  · decide +kernel
  · decide +kernel

end Session

end MachO
