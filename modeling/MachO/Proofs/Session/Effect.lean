import MachO.Proofs.Cursor
import MachO.Session.Step

/-!
# What one step can do

Every step of a session comes to one of a few effects: it starts a stream,
adds one thing behind the others, moves the cursor of the one stream that it
works on, takes or gives back a lock, or does nothing.  Only taking and giving
back touch a lock.  An invariant of sessions is shown effect by effect, and no
step is looked at again.
-/

namespace MachO

/-- The stream that a step works on, if it works on one. -/
def Step.target? (session : Session) : Step → Option Nat
  | .hold slot | .drop slot | .breakOff slot _ | .byteOrder slot
  | .seek slot _ | .tell slot | .read slot _ | .readSection slot _
  | .build slot _ | .buildImage slot _ =>
      (session.slots[slot]?).map Slot.stream
  | .contents table _ => (session.tables[table]?).map SourcedTable.stream
  | _ => none

namespace Session

/-- A user or a table of the session belongs to the stream. -/
def Uses (session : Session) (stream : Nat) : Prop :=
  (∃ slot ∈ session.slots, slot.stream = stream) ∨
    ∃ sourced ∈ session.tables, sourced.stream = stream

/-- Takes the lock of the stream for a slot, or gives it back. -/
def setLock (session : Session) (number : Nat) (slot : Slot)
    (shared : SharedStream) (held : Bool) : Session :=
  (session.replaceStream slot.stream { shared with locked := held }).replaceSlot
    number { slot with holds := held }

inductive Effect (session : Session) : Step → Answer × Session → Prop
  | nothing (step : Step) (answer : Answer) :
      Effect session step (answer, session)
  | start (order : ByteOrder) (medium : Medium) :
      Effect session (.start order medium)
        (.slot session.slots.length,
          { session with
            streams := session.streams ++ [.ofStream (.start order medium)]
            slots := session.slots ++ [⟨session.streams.length, false⟩] })
  | slot {stream : Nat} (step : Step) (huses : session.Uses stream) :
      Effect session step
        (.slot session.slots.length, session.addSlot ⟨stream, false⟩)
  | cursor {step : Step} {k : Nat} {shared : SharedStream} (answer : Answer)
      (cursor : Nat) (htarget : step.target? session = some k)
      (hshared : session.streams[k]? = some shared) :
      Effect session step
        (answer, session.replaceStream k (shared.moveTo cursor))
  | table {step : Step} {k : Nat} {shared : SharedStream}
      (cursor : Nat) (table : SectionTable) (sameStream : Bool)
      (htarget : step.target? session = some k)
      (hshared : session.streams[k]? = some shared)
      (huses : session.Uses k) :
      Effect session step
        (.table session.tables.length table sameStream,
          { session.replaceStream k (shared.moveTo cursor) with
            tables := session.tables ++ [⟨k, table⟩] })
  | image (step : Step) (image : Image) (number : Nat) (equal : List Bool) :
      Effect session step (.image image number equal,
        { session with images := session.images ++ [image] })
  | reference (step : Step) (reference : Reference) (index : Nat)
      (s : Section) :
      Effect session step (.reference index s,
        { session with references := session.references ++ [reference] })
  | hold {number : Nat} {slot : Slot} {shared : SharedStream}
      (hslot : session.slots[number]? = some slot)
      (hshared : session.streams[slot.stream]? = some shared)
      (hfree : shared.locked = false) :
      Effect session (.hold number)
        (.done, session.setLock number slot shared true)
  | drop {number : Nat} {slot : Slot} {shared : SharedStream}
      (hslot : session.slots[number]? = some slot)
      (hshared : session.streams[slot.stream]? = some shared)
      (hholds : slot.holds = true) :
      Effect session (.drop number)
        (.done, session.setLock number slot shared false)

variable {session : Session} {number : Nat}

theorem slot?_cases (session : Session) (number : Nat) :
    session.slot? number = none ∨
      ∃ slot shared, session.slot? number = some (slot, shared) ∧
        session.slots[number]? = some slot ∧
          session.streams[slot.stream]? = some shared := by
  unfold slot?
  cases hslot : session.slots[number]? with
  | none => exact Or.inl rfl
  | some slot =>
      cases hshared : session.streams[slot.stream]? with
      | none => exact Or.inl (by simp [hshared])
      | some shared =>
          exact Or.inr ⟨slot, shared, by simp [hshared], rfl, hshared⟩

theorem table?_cases (session : Session) (number : Nat) :
    session.table? number = none ∨
      ∃ sourced shared, session.table? number = some (sourced, shared) ∧
        session.tables[number]? = some sourced ∧
          session.streams[sourced.stream]? = some shared := by
  unfold table?
  cases htable : session.tables[number]? with
  | none => exact Or.inl rfl
  | some sourced =>
      cases hshared : session.streams[sourced.stream]? with
      | none => exact Or.inl (by simp [hshared])
      | some shared =>
          exact Or.inr ⟨sourced, shared, by simp [hshared], rfl, hshared⟩

theorem uses_of_slot {slot : Slot}
    (hslot : session.slots[number]? = some slot) :
    session.Uses slot.stream :=
  Or.inl ⟨slot, List.mem_of_getElem? hslot, rfl⟩

theorem uses_of_table {sourced : SourcedTable}
    (htable : session.tables[number]? = some sourced) :
    session.Uses sourced.stream :=
  Or.inr ⟨sourced, List.mem_of_getElem? htable, rfl⟩

theorem slot?_of_getElem? {slot : Slot} {shared : SharedStream}
    (hslot : session.slots[number]? = some slot)
    (hshared : session.streams[slot.stream]? = some shared) :
    session.slot? number = some (slot, shared) := by
  simp [slot?, hslot, hshared]

theorem table?_of_getElem? {sourced : SourcedTable} {shared : SharedStream}
    (htable : session.tables[number]? = some sourced)
    (hshared : session.streams[sourced.stream]? = some shared) :
    session.table? number = some (sourced, shared) := by
  simp [table?, htable, hshared]

/-! ## The effect of each kind of step -/

theorem effect_operate {α : Type} {step : Step}
    {operation : Stream → Except Error α × Stream}
    (hmoves : Stream.MovesCursor operation) (answer : α → Answer)
    (htarget : step.target? session =
      (session.slots[number]?).map Slot.stream) :
    session.Effect step (session.operate number operation answer) := by
  rcases session.slot?_cases number with
    hnone | ⟨slot, shared, hsome, hslot, hshared⟩
  · simp only [operate, hnone]
    exact .nothing step _
  · rw [hslot] at htarget
    simp only [operate, hsome]
    cases slot.holds with
    | true =>
        obtain ⟨cursor, hafter⟩ := SharedStream.exists_within hmoves shared
        simp only [if_true, hafter]
        exact .cursor _ cursor htarget hshared
    | false =>
        obtain ⟨cursor, hafter⟩ :=
          SharedStream.exists_exclusively hmoves shared
        simp only [Bool.false_eq_true, if_false, hafter]
        exact .cursor _ cursor htarget hshared

theorem effect_hold (session : Session) (number : Nat) :
    session.Effect (.hold number) (session.hold number) := by
  rcases session.slot?_cases number with
    hnone | ⟨slot, shared, hsome, hslot, hshared⟩
  · simp only [hold, hnone]
    exact .nothing _ _
  · cases hlocked : shared.locked with
    | true =>
        simp only [hold, hsome, SharedStream.acquire, hlocked, if_true]
        exact .nothing _ _
    | false =>
        simp only [hold, hsome, SharedStream.acquire, hlocked,
          Bool.false_eq_true, if_false]
        exact .hold hslot hshared hlocked

theorem effect_drop (session : Session) (number : Nat) :
    session.Effect (.drop number) (session.drop number) := by
  rcases session.slot?_cases number with
    hnone | ⟨slot, shared, hsome, hslot, hshared⟩
  · simp only [drop, hnone]
    exact .nothing _ _
  · cases hholds : slot.holds with
    | true =>
        simp only [drop, hsome, hholds, if_true]
        exact .drop hslot hshared hholds
    | false =>
        simp only [drop, hsome, hholds, Bool.false_eq_true, if_false]
        exact .nothing _ _

theorem effect_breakOff (session : Session) (number position : Nat) :
    session.Effect (.breakOff number position)
      (session.breakOff number position) := by
  rcases session.slot?_cases number with
    hnone | ⟨slot, shared, hsome, hslot, hshared⟩
  · simp only [breakOff, hnone]
    exact .nothing _ _
  · obtain ⟨cursor, hafter⟩ := SharedStream.exists_exclusively
      (Stream.movesCursor_seek position) shared
    simp only [breakOff, hsome, hafter]
    exact .cursor _ cursor (by rw [Step.target?, hslot]; rfl) hshared

theorem effect_parse (session : Session) (step : Step) (bytes : Bytes) :
    session.Effect step (session.parse bytes) := by
  cases hparse : Image.parse bytes with
  | error failure =>
      simp only [parse, hparse]
      exact .nothing step _
  | ok image =>
      simp only [parse, hparse]
      exact .image step image _ _

theorem effect_build {step : Step} (views : List View)
    (htarget : step.target? session =
      (session.slots[number]?).map Slot.stream) :
    session.Effect step (session.build number views) := by
  rcases session.slot?_cases number with
    hnone | ⟨slot, shared, hsome, hslot, hshared⟩
  · simp only [build, hnone]
    exact .nothing step _
  · rw [hslot] at htarget
    obtain ⟨cursor, hafter⟩ := SectionTable.exists_build_shared views shared
    cases hresult : (SectionTable.build views shared).result with
    | error failure =>
        simp only [build, hsome, hafter, hresult]
        exact .cursor _ cursor htarget hshared
    | ok table =>
        simp only [build, hsome, hafter, hresult]
        exact .table cursor table _ htarget hshared (uses_of_slot hslot)

theorem effect_contents (session : Session) (number index : Nat) :
    session.Effect (.contents number index)
      (session.contents number index) := by
  rcases session.table?_cases number with
    hnone | ⟨sourced, shared, hsome, htable, hshared⟩
  · simp only [contents, hnone]
    exact .nothing _ _
  · obtain ⟨cursor, hafter⟩ :=
      sourced.table.exists_contents_shared index shared
    simp only [contents, hsome, hafter]
    exact .cursor _ cursor (by rw [Step.target?, htable]; rfl) hshared

theorem effect_lookUp (session : Session) (step : Step) (number : Nat)
    (place : SectionTable → Option Nat) :
    session.Effect step (session.lookUp number place) := by
  unfold lookUp
  split
  · exact .nothing step _
  · split
    · exact .nothing step _
    · split
      · exact .nothing step _
      · exact .reference step _ _ _

theorem effect_consult (session : Session) (step : Step) (number : Nat)
    (answer : SectionTable → Answer) :
    session.Effect step (session.consult number answer) := by
  unfold consult
  split <;> exact .nothing step _

theorem effect_step (session : Session) (step : Step) :
    session.Effect step (session.step step) := by
  cases step with
  | start order medium => exact .start order medium
  | share slot =>
      cases hslot : session.slots[slot]? with
      | none =>
          simp only [Session.step, hslot]
          exact .nothing _ _
      | some shared =>
          simp only [Session.step, hslot]
          exact .slot _ (uses_of_slot hslot)
  | sameStream slot other =>
      simp only [Session.step]
      split <;> exact .nothing _ _
  | hold slot => exact session.effect_hold slot
  | drop slot => exact session.effect_drop slot
  | breakOff slot position => exact session.effect_breakOff slot position
  | byteOrder slot =>
      exact effect_operate (Stream.movesCursor_inspect _) _ rfl
  | seek slot position =>
      exact effect_operate (Stream.movesCursor_seek position) _ rfl
  | tell slot => exact effect_operate (Stream.movesCursor_inspect _) _ rfl
  | read slot count =>
      exact effect_operate (Stream.movesCursor_read count) _ rfl
  | readSection slot width =>
      exact effect_operate (Stream.movesCursor_readSection width) _ rfl
  | parse bytes => exact session.effect_parse _ bytes
  | build slot views => exact effect_build views rfl
  | buildImage slot image =>
      cases himage : session.images[image]? with
      | none =>
          simp only [Session.step, himage]
          exact .nothing _ _
      | some image =>
          simp only [Session.step, himage]
          exact effect_build _ rfl
  | size table | names table | display table | get table _ =>
      simp only [Session.step]
      exact session.effect_consult _ table _
  | contents table index => exact session.effect_contents table index
  | shareSource table =>
      cases htable : session.tables[table]? with
      | none =>
          simp only [Session.step, htable]
          exact .nothing _ _
      | some sourced =>
          simp only [Session.step, htable]
          exact .slot _ (uses_of_table htable)
  | refer table _ | find table _ _ =>
      simp only [Session.step]
      exact session.effect_lookUp _ table _
  | sameReference reference other =>
      simp only [Session.step]
      split <;> exact .nothing _ _
  | outline reference style =>
      simp only [Session.step]
      split
      · exact .nothing _ _
      · split <;> exact .nothing _ _

/-! ## Runs -/

theorem map_set_of_getElem? {α β : Type} {list : List α} {k : Nat}
    {old new : α} {f : α → β} (hold : list[k]? = some old)
    (hsame : f new = f old) :
    (list.set k new).map f = list.map f := by
  obtain ⟨hk, rfl⟩ := List.getElem?_eq_some_iff.mp hold
  calc
    (list.set k new).map f = (list.set k list[k]).map f := by
      rw [List.map_set, hsame, List.map_set]
    _ = list.map f := by rw [List.set_getElem_self]

theorem run_induction {property : Session → Prop}
    (hstep : ∀ session step, property session →
      property (session.step step).2)
    (session : Session) (steps : List Step) (hstart : property session) :
    property (session.run steps).2 := by
  induction steps generalizing session with
  | nil => exact hstart
  | cons step steps ih => exact ih (session.step step).2 (hstep _ _ hstart)

end Session

end MachO
