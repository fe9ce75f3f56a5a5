import MachO.Proofs.Session.Effect

/-!
# Locks of a session

A stream is locked exactly while one of its users holds the lock, and never
does more than one.  Taking and giving back are the only steps that touch the
locks: every other step, whether it succeeds, fails or breaks off, leaves each
of them with whoever had it, and what it makes holds no lock.

So a step that needs a lock which somebody else holds finds its stream locked,
and then it has changed nothing yet.
-/

namespace MachO

/-- The slot through which a step works, under the lock of that slot if it
holds one. -/
def Step.user? : Step → Option Nat
  | .byteOrder slot | .seek slot _ | .tell slot | .read slot _
  | .readSection slot _ => some slot
  | _ => none

/-- The slot for whose stream a step takes the lock itself. -/
def Step.taker? (session : Session) : Step → Option Nat
  | .hold slot | .breakOff slot _ | .build slot _ => some slot
  | .buildImage slot image =>
      if image < session.images.length then some slot else none
  | _ => none

/-- The step failed, or it names something that there is not. -/
def Answer.IsFailure : Answer → Prop
  | .failed _ | .unknown => True
  | _ => False

namespace Session

def Holds (session : Session) (number stream : Nat) : Prop :=
  ∃ slot, session.slots[number]? = some slot ∧ slot.holds = true ∧
    slot.stream = stream

/-- The step needs a lock that another slot holds, or it takes a lock itself
that any slot holds. -/
inductive Refused (session : Session) : Step → Prop
  | user {step : Step} {number holder : Nat} {slot : Slot}
      (huser : step.user? = some number)
      (hslot : session.slots[number]? = some slot)
      (hother : holder ≠ number)
      (hholds : session.Holds holder slot.stream) : Refused session step
  | taker {step : Step} {number holder : Nat} {slot : Slot}
      (htaker : step.taker? session = some number)
      (hslot : session.slots[number]? = some slot)
      (hholds : session.Holds holder slot.stream) : Refused session step
  | contents {number index holder : Nat} {sourced : SourcedTable}
      {s : Section}
      (htable : session.tables[number]? = some sourced)
      (hget : sourced.table.get? index = some s)
      (hzero : s.isZeroFill = false)
      (hholds : session.Holds holder sourced.stream) :
      Refused session (.contents number index)

/-- Every lock is with whoever had it, and what is new holds none. -/
structure KeepsLocks (before after : Session) : Prop where
  slots : ∃ made, after.slots = before.slots ++ made ∧
    ∀ slot ∈ made, slot.holds = false
  locks : ∃ made, after.streams.map SharedStream.locked =
      before.streams.map SharedStream.locked ++ made ∧
    ∀ locked ∈ made, locked = false

/-- Every stream but the target of the step has its cursor and its lock as
before, and so have its users. -/
def LeavesOthers (before : Session) (step : Step) (after : Session) : Prop :=
  ∀ k < before.streams.length, step.target? before ≠ some k →
    after.streams[k]? = before.streams[k]? ∧
      ∀ (number : Nat) (slot : Slot), before.slots[number]? = some slot →
        slot.stream = k → after.slots[number]? = some slot

def MakesNothing (before after : Session) : Prop :=
  after.slots = before.slots ∧ after.tables = before.tables ∧
    after.images = before.images ∧ after.references = before.references ∧
      after.streams.length = before.streams.length

structure Sound (session : Session) : Prop where
  known : ∀ k, session.Uses k → k < session.streams.length
  locked_iff : ∀ k shared, session.streams[k]? = some shared →
    (shared.locked = true ↔ ∃ number, session.Holds number k)
  exclusive : ∀ i j k, session.Holds i k → session.Holds j k → i = j

variable {session : Session} {number : Nat} {slot : Slot}
  {shared : SharedStream}

/-! ## Single replacements -/

theorem replaceStream_self {k : Nat}
    (hshared : session.streams[k]? = some shared) :
    session.replaceStream k shared = session := by
  obtain ⟨hk, hget⟩ := List.getElem?_eq_some_iff.mp hshared
  subst hget
  simp only [replaceStream, List.set_getElem_self]

theorem uses_iff (k : Nat) :
    session.Uses k ↔ k ∈ session.slots.map Slot.stream ∨
      k ∈ session.tables.map SourcedTable.stream := by
  simp only [Uses, List.mem_map]

theorem uses_addSlot_iff (slot : Slot) (k : Nat) :
    (session.addSlot slot).Uses k ↔ session.Uses k ∨ k = slot.stream := by
  rw [uses_iff, uses_iff, or_right_comm]
  simp only [addSlot, List.map_append, List.mem_append, List.map_singleton,
    List.mem_singleton]

theorem uses_addTable_iff (sourced : SourcedTable) (k : Nat) :
    ({ session with tables := session.tables ++ [sourced] } : Session).Uses k ↔
      session.Uses k ∨ k = sourced.stream := by
  rw [uses_iff, uses_iff, or_assoc]
  simp only [List.map_append, List.mem_append, List.map_singleton,
    List.mem_singleton]

theorem uses_of_holds {k : Nat} (hholds : session.Holds number k) :
    session.Uses k := by
  obtain ⟨slot, hslot, _, rfl⟩ := hholds
  exact uses_of_slot hslot

theorem uses_setLock_iff (hslot : session.slots[number]? = some slot)
    (held : Bool) (k : Nat) :
    (session.setLock number slot shared held).Uses k ↔ session.Uses k := by
  have hslots : ((session.setLock number slot shared held).slots).map
      Slot.stream = session.slots.map Slot.stream :=
    map_set_of_getElem? hslot rfl
  rw [uses_iff, uses_iff, hslots]
  rfl

theorem holds_setLock_iff (hslot : session.slots[number]? = some slot)
    (held : Bool) (i k : Nat) :
    (session.setLock number slot shared held).Holds i k ↔
      (i = number ∧ held = true ∧ slot.stream = k) ∨
        (i ≠ number ∧ session.Holds i k) := by
  obtain ⟨hnumber, _⟩ := List.getElem?_eq_some_iff.mp hslot
  by_cases hi : i = number
  · subst hi
    simp [Holds, setLock, replaceSlot, replaceStream, hnumber]
  · simp [Holds, setLock, replaceSlot, replaceStream, hi,
      List.getElem?_set_ne (Ne.symm hi)]

theorem holds_setLock_iff_of_ne (hslot : session.slots[number]? = some slot)
    (held : Bool) {i k : Nat} (hk : slot.stream ≠ k) :
    (session.setLock number slot shared held).Holds i k ↔
      session.Holds i k := by
  rw [holds_setLock_iff hslot]
  constructor
  · rintro (⟨_, _, hstream⟩ | ⟨_, hholds⟩)
    · exact absurd hstream hk
    · exact hholds
  · intro hholds
    refine Or.inr ⟨?_, hholds⟩
    rintro rfl
    obtain ⟨other, hother, _, hstream⟩ := hholds
    rw [hslot] at hother
    cases hother
    exact hk hstream

/-! ## What keeps the locks -/

namespace KeepsLocks

variable {before after : Session}

theorem refl (session : Session) : session.KeepsLocks session :=
  ⟨⟨[], by simp⟩, ⟨[], by simp⟩⟩

theorem of_cursor {k : Nat} (hshared : before.streams[k]? = some shared)
    (cursor : Nat) :
    before.KeepsLocks (before.replaceStream k (shared.moveTo cursor)) := by
  have hlocks : (before.streams.set k (shared.moveTo cursor)).map
      SharedStream.locked = before.streams.map SharedStream.locked :=
    map_set_of_getElem? hshared rfl
  exact ⟨⟨[], by simp [replaceStream]⟩, ⟨[], by simp [replaceStream, hlocks]⟩⟩

theorem holds_iff (hkeeps : before.KeepsLocks after) (number k : Nat) :
    after.Holds number k ↔ before.Holds number k := by
  obtain ⟨made, hslots, hmade⟩ := hkeeps.slots
  unfold Holds
  rw [hslots]
  constructor
  · rintro ⟨slot, hslot, hholds, hstream⟩
    rcases lt_or_ge number before.slots.length with hold | hnew
    · rw [List.getElem?_append_left hold] at hslot
      exact ⟨slot, hslot, hholds, hstream⟩
    · rw [List.getElem?_append_right hnew] at hslot
      rw [hmade slot (List.mem_of_getElem? hslot)] at hholds
      cases hholds
  · rintro ⟨slot, hslot, hholds, hstream⟩
    obtain ⟨hnumber, _⟩ := List.getElem?_eq_some_iff.mp hslot
    exact ⟨slot, by rwa [List.getElem?_append_left hnumber], hholds, hstream⟩

theorem locked_cases (hkeeps : before.KeepsLocks after) {k : Nat}
    (hshared : after.streams[k]? = some shared) :
    (∃ old, before.streams[k]? = some old ∧ old.locked = shared.locked) ∨
      before.streams.length ≤ k ∧ shared.locked = false := by
  obtain ⟨made, hlocks, hmade⟩ := hkeeps.locks
  have hlock : (before.streams.map SharedStream.locked ++ made)[k]? =
      some shared.locked := by
    rw [← hlocks, List.getElem?_map, hshared]
    rfl
  rcases lt_or_ge k before.streams.length with hold | hnew
  · rw [List.getElem?_append_left (by simpa using hold),
      List.getElem?_map] at hlock
    exact Or.inl (Option.map_eq_some_iff.mp hlock)
  · rw [List.getElem?_append_right (by simpa using hnew)] at hlock
    exact Or.inr ⟨hnew, hmade _ (List.mem_of_getElem? hlock)⟩

end KeepsLocks

theorem Effect.locks {step : Step} {result : Answer × Session}
    (heffect : session.Effect step result) :
    session.KeepsLocks result.2 ∨
      ∃ number slot shared held, session.slots[number]? = some slot ∧
        session.streams[slot.stream]? = some shared ∧
        result.2 = session.setLock number slot shared held ∧
        (step = .hold number ∧ shared.locked = false ∨
          step = .drop number ∧ slot.holds = true) := by
  cases heffect with
  | nothing => exact Or.inl (.refl session)
  | start order medium =>
      exact Or.inl ⟨⟨_, rfl, by simp⟩,
        ⟨[false], by simp [SharedStream.ofStream], by simp⟩⟩
  | slot => exact Or.inl ⟨⟨_, rfl, by simp⟩, ⟨[], by simp [addSlot]⟩⟩
  | cursor answer cursor htarget hshared =>
      exact Or.inl (.of_cursor hshared cursor)
  | table cursor table sameStream htarget hshared huses =>
      have hkeeps := KeepsLocks.of_cursor hshared cursor
      exact Or.inl ⟨hkeeps.slots, hkeeps.locks⟩
  | image | reference => exact Or.inl ⟨⟨[], by simp⟩, ⟨[], by simp⟩⟩
  | hold hslot hshared hfree =>
      exact Or.inr ⟨_, _, _, true, hslot, hshared, rfl, Or.inl ⟨rfl, hfree⟩⟩
  | drop hslot hshared hholds =>
      exact Or.inr
        ⟨_, _, _, false, hslot, hshared, rfl, Or.inr ⟨rfl, hholds⟩⟩

theorem keepsLocks_step {step : Step} (hhold : ∀ number, step ≠ .hold number)
    (hdrop : ∀ number, step ≠ .drop number) :
    session.KeepsLocks (session.step step).2 := by
  rcases (session.effect_step step).locks with
    hkeeps | ⟨number, _, _, _, _, _, _, ⟨hstep, _⟩ | ⟨hstep, _⟩⟩
  · exact hkeeps
  · exact absurd hstep (hhold number)
  · exact absurd hstep (hdrop number)

/-! ## The invariant -/

theorem Effect.known {step : Step} {result : Answer × Session}
    (heffect : session.Effect step result)
    (hknown : ∀ k, session.Uses k → k < session.streams.length) :
    ∀ k, result.2.Uses k → k < result.2.streams.length := by
  intro k huses
  cases heffect with
  | nothing | image | reference => exact hknown k huses
  | start order medium =>
      rw [List.length_append, List.length_singleton]
      rcases (uses_addSlot_iff ⟨session.streams.length, false⟩ k).mp huses with
        hold | rfl
      · exact Nat.lt_succ_of_lt (hknown k hold)
      · exact Nat.lt_succ_self _
  | @slot stream step hstream =>
      rcases (uses_addSlot_iff ⟨stream, false⟩ k).mp huses with hold | rfl
      · exact hknown k hold
      · exact hknown _ hstream
  | cursor answer cursor htarget hshared =>
      simp only [replaceStream, List.length_set]
      exact hknown k huses
  | @table step stream shared cursor table sameStream htarget hshared hstream =>
      simp only [replaceStream, List.length_set]
      rcases (uses_addTable_iff ⟨stream, table⟩ k).mp huses with hold | rfl
      · exact hknown k hold
      · exact hknown _ hstream
  | hold hslot | drop hslot =>
      rw [uses_setLock_iff hslot] at huses
      simp only [setLock, replaceSlot, replaceStream, List.length_set]
      exact hknown k huses

namespace Sound

theorem empty : Session.empty.Sound where
  known k huses := by simp [Uses, Session.empty] at huses
  locked_iff k shared hshared := by simp [Session.empty] at hshared
  exclusive i j k hi := by
    obtain ⟨slot, hslot, _⟩ := hi
    simp [Session.empty] at hslot

theorem of_keepsLocks {after : Session} (hsound : session.Sound)
    (hkeeps : session.KeepsLocks after)
    (hknown : ∀ k, after.Uses k → k < after.streams.length) :
    after.Sound where
  known := hknown
  locked_iff k shared hshared := by
    simp only [hkeeps.holds_iff]
    rcases hkeeps.locked_cases hshared with
      ⟨old, hold, hlocked⟩ | ⟨hnew, hfree⟩
    · rw [← hlocked]
      exact hsound.locked_iff k old hold
    · -- Nobody can hold the lock of a stream that there was not before.
      constructor
      · intro hlocked
        rw [hfree] at hlocked
        cases hlocked
      · rintro ⟨number, hholds⟩
        have hlt := hsound.known k (uses_of_holds hholds)
        omega
  exclusive i j k hi hj :=
    hsound.exclusive i j k ((hkeeps.holds_iff i k).mp hi)
      ((hkeeps.holds_iff j k).mp hj)

theorem not_holds_of_free (hsound : session.Sound) {k : Nat}
    (hshared : session.streams[k]? = some shared)
    (hfree : shared.locked = false) (number : Nat) :
    ¬ session.Holds number k := by
  intro hholds
  have hlocked := (hsound.locked_iff k shared hshared).mpr ⟨number, hholds⟩
  rw [hfree] at hlocked
  cases hlocked

/-- The locks after one slot has taken its lock or given it back, when at most
that slot holds it then. -/
theorem setLock {held : Bool} (hsound : session.Sound)
    (hslot : session.slots[number]? = some slot)
    (halone : ∀ other, session.Holds other slot.stream → other = number) :
    (session.setLock number slot shared held).Sound where
  known k huses := by
    rw [uses_setLock_iff hslot] at huses
    simp only [Session.setLock, replaceSlot, replaceStream, List.length_set]
    exact hsound.known k huses
  locked_iff k other hother := by
    by_cases hk : slot.stream = k
    · subst hk
      have hlt := hsound.known _ (uses_of_slot hslot)
      have hheld : other.locked = held := by
        simp only [Session.setLock, replaceSlot, replaceStream,
          List.getElem?_set_self hlt, Option.some.injEq] at hother
        rw [← hother]
      rw [hheld]
      constructor
      · intro htrue
        exact ⟨number, (holds_setLock_iff hslot held number _).mpr
          (Or.inl ⟨rfl, htrue, rfl⟩)⟩
      · rintro ⟨i, hholds⟩
        rcases (holds_setLock_iff hslot held i _).mp hholds with
          ⟨_, htrue, _⟩ | ⟨hi, hholds⟩
        · exact htrue
        · exact absurd (halone i hholds) hi
    · simp only [Session.setLock, replaceSlot, replaceStream,
        List.getElem?_set_ne hk] at hother
      simp only [holds_setLock_iff_of_ne hslot held hk]
      exact hsound.locked_iff k other hother
  exclusive i j k hi hj := by
    by_cases hk : slot.stream = k
    · subst hk
      have honly : ∀ other, (session.setLock number slot shared held).Holds
          other slot.stream → other = number := by
        intro other hholds
        rcases (holds_setLock_iff hslot held other _).mp hholds with
          ⟨hother, _, _⟩ | ⟨_, hholds⟩
        · exact hother
        · exact halone other hholds
      rw [honly i hi, honly j hj]
    · rw [holds_setLock_iff_of_ne hslot held hk] at hi hj
      exact hsound.exclusive i j k hi hj

theorem step (hsound : session.Sound) (step : Step) :
    (session.step step).2.Sound := by
  have heffect := session.effect_step step
  rcases heffect.locks with
    hkeeps | ⟨number, slot, shared, held, hslot, hshared, hafter, hlock⟩
  · exact hsound.of_keepsLocks hkeeps (heffect.known hsound.known)
  · rw [hafter]
    apply hsound.setLock hslot
    intro other hother
    rcases hlock with ⟨_, hfree⟩ | ⟨_, hholds⟩
    · exact absurd hother (hsound.not_holds_of_free hshared hfree other)
    · exact hsound.exclusive other number slot.stream hother
        ⟨slot, hslot, hholds, rfl⟩

theorem run (hsound : session.Sound) (steps : List Step) :
    (session.run steps).2.Sound :=
  run_induction (fun _ step h => h.step step) session steps hsound

end Sound

/-! ## Steps that find a lock taken -/

theorem Sound.exists_locked (hsound : session.Sound) {k : Nat}
    (hholds : session.Holds number k) :
    ∃ shared, session.streams[k]? = some shared ∧ shared.locked = true := by
  have hk := hsound.known k (uses_of_holds hholds)
  have hshared := List.getElem?_eq_getElem hk
  exact ⟨_, hshared, (hsound.locked_iff k _ hshared).mpr ⟨number, hholds⟩⟩

variable {holder : Nat}

theorem operate_of_holds {α : Type} (hsound : session.Sound)
    (hslot : session.slots[number]? = some slot) (hother : holder ≠ number)
    (hholds : session.Holds holder slot.stream)
    (operation : Stream → Except Error α × Stream) (answer : α → Answer) :
    session.operate number operation answer =
      (.failed .handleInUse, session) := by
  obtain ⟨shared, hshared, hlocked⟩ := hsound.exists_locked hholds
  have hfree : slot.holds = false := by
    by_contra hown
    exact hother (hsound.exclusive holder number slot.stream hholds
      ⟨slot, hslot, by simpa using hown, rfl⟩)
  simp only [operate, slot?_of_getElem? hslot hshared, hfree,
    Bool.false_eq_true, if_false, SharedStream.exclusively_of_locked hlocked,
    replaceStream_self hshared, Answer.ofResult]

theorem hold_of_holds (hsound : session.Sound)
    (hslot : session.slots[number]? = some slot)
    (hholds : session.Holds holder slot.stream) :
    session.hold number = (.failed .handleInUse, session) := by
  obtain ⟨shared, hshared, hlocked⟩ := hsound.exists_locked hholds
  simp only [hold, slot?_of_getElem? hslot hshared, SharedStream.acquire,
    hlocked, if_true]

theorem breakOff_of_holds (hsound : session.Sound)
    (hslot : session.slots[number]? = some slot)
    (hholds : session.Holds holder slot.stream) (position : Nat) :
    session.breakOff number position = (.failed .handleInUse, session) := by
  obtain ⟨shared, hshared, hlocked⟩ := hsound.exists_locked hholds
  simp only [breakOff, slot?_of_getElem? hslot hshared,
    SharedStream.exclusively_of_locked hlocked, replaceStream_self hshared,
    Answer.ofResult]

theorem build_of_holds (hsound : session.Sound)
    (hslot : session.slots[number]? = some slot)
    (hholds : session.Holds holder slot.stream) (views : List View) :
    session.build number views = (.failed .handleInUse, session) := by
  obtain ⟨shared, hshared, hlocked⟩ := hsound.exists_locked hholds
  simp only [build, slot?_of_getElem? hslot hshared,
    SectionTable.build_of_locked hlocked, replaceStream_self hshared]

theorem contents_of_holds (hsound : session.Sound) {sourced : SourcedTable}
    {index : Nat} {s : Section}
    (htable : session.tables[number]? = some sourced)
    (hget : sourced.table.get? index = some s) (hzero : s.isZeroFill = false)
    (hholds : session.Holds holder sourced.stream) :
    session.contents number index = (.failed .handleInUse, session) := by
  obtain ⟨shared, hshared, hlocked⟩ := hsound.exists_locked hholds
  simp only [contents, table?_of_getElem? htable hshared,
    SectionTable.contents_of_stored hget hzero,
    SharedStream.exclusively_of_locked hlocked, replaceStream_self hshared,
    Except.map, Answer.ofResult]

theorem Sound.step_of_refused (hsound : session.Sound) {step : Step}
    (hrefused : session.Refused step) :
    session.step step = (.failed .handleInUse, session) := by
  cases hrefused with
  | user huser hslot hother hholds =>
      cases step <;> simp only [Step.user?, Option.some.injEq,
        reduceCtorEq] at huser <;> subst huser
      all_goals exact operate_of_holds hsound hslot hother hholds _ _
  | taker htaker hslot hholds =>
      cases step with
      | hold slot =>
          cases htaker
          exact hold_of_holds hsound hslot hholds
      | breakOff slot position =>
          cases htaker
          exact breakOff_of_holds hsound hslot hholds position
      | build slot views =>
          cases htaker
          exact build_of_holds hsound hslot hholds views
      | buildImage slot image =>
          simp only [Step.taker?, Option.ite_none_right_eq_some,
            Option.some.injEq] at htaker
          obtain ⟨himage, rfl⟩ := htaker
          simp only [Session.step, List.getElem?_eq_getElem himage]
          exact build_of_holds hsound hslot hholds _
      | _ => simp [Step.taker?] at htaker
  | contents htable hget hzero hholds =>
      exact contents_of_holds hsound htable hget hzero hholds

/-! ## What a step leaves alone -/

theorem leaves_setLock (hslot : session.slots[number]? = some slot)
    (shared : SharedStream) (held : Bool) {k : Nat} (hk : slot.stream ≠ k) :
    (session.setLock number slot shared held).streams[k]? =
        session.streams[k]? ∧
      ∀ (other : Nat) (user : Slot), session.slots[other]? = some user →
        user.stream = k →
          (session.setLock number slot shared held).slots[other]? =
            some user := by
  refine ⟨List.getElem?_set_ne hk, fun other user huser hstream => ?_⟩
  have hne : number ≠ other := by
    rintro rfl
    rw [hslot] at huser
    cases huser
    exact hk hstream
  exact (List.getElem?_set_ne hne).trans huser

theorem Effect.leavesOthers {step : Step} {result : Answer × Session}
    (heffect : session.Effect step result) :
    session.LeavesOthers step result.2 := by
  intro k hk htarget
  cases heffect with
  | nothing | image | reference => exact ⟨rfl, fun _ _ hslot _ => hslot⟩
  | start order medium =>
      refine ⟨List.getElem?_append_left hk, fun number slot hslot _ => ?_⟩
      obtain ⟨hnumber, _⟩ := List.getElem?_eq_some_iff.mp hslot
      simp only [List.getElem?_append_left hnumber, hslot]
  | slot =>
      refine ⟨rfl, fun number slot hslot _ => ?_⟩
      obtain ⟨hnumber, _⟩ := List.getElem?_eq_some_iff.mp hslot
      simp only [addSlot, List.getElem?_append_left hnumber, hslot]
  | @cursor _ target _ _ _ hhere | @table _ target _ _ _ _ hhere =>
      have hne : target ≠ k := fun h => htarget (h ▸ hhere)
      exact ⟨List.getElem?_set_ne hne, fun _ _ hslot _ => hslot⟩
  | hold hslot | drop hslot =>
      refine leaves_setLock hslot _ _ fun h => htarget ?_
      simp only [Step.target?, hslot, Option.map_some, h]

theorem Effect.makesNothing {step : Step} {result : Answer × Session}
    (heffect : session.Effect step result) (hfailure : result.1.IsFailure) :
    session.MakesNothing result.2 := by
  cases heffect with
  | nothing => exact ⟨rfl, rfl, rfl, rfl, rfl⟩
  | cursor => exact ⟨rfl, rfl, rfl, rfl, List.length_set⟩
  | _ => exact hfailure.elim

/-- In every session that is reached from the empty one, a stream is locked
exactly while a slot holds its lock, and one slot does at most.  A step that
needs a lock which is with somebody else is refused and changes nothing.  Only
taking and giving back touch the locks, and no step touches a stream that it
does not work on, nor makes anything if it fails. -/
theorem lock_discipline (history : List Step) :
    let session := (empty.run history).2
    (∀ k shared, session.streams[k]? = some shared →
        (shared.locked = true ↔ ∃ number, session.Holds number k)) ∧
      (∀ i j k, session.Holds i k → session.Holds j k → i = j) ∧
      (∀ step, session.Refused step →
        session.step step = (.failed .handleInUse, session)) ∧
      (∀ step, (∀ number, step ≠ .hold number) →
        (∀ number, step ≠ .drop number) →
          session.KeepsLocks (session.step step).2) ∧
      (∀ step, session.LeavesOthers step (session.step step).2) ∧
      ∀ step, (session.step step).1.IsFailure →
        session.MakesNothing (session.step step).2 := by
  intro session
  have hsound : session.Sound := Sound.empty.run history
  refine ⟨hsound.locked_iff, hsound.exclusive,
    fun step => hsound.step_of_refused, fun step => keepsLocks_step,
    fun step => ?_, fun step => ?_⟩
  · exact (session.effect_step step).leavesOthers
  · exact (session.effect_step step).makesNothing

/-- Two users of one stream with an end, of whom the first holds the lock. -/
def contended : List Step :=
  [.start .little { Medium.ofBytes [1, 2, 3] with bounded := true }, .share 0,
    .seek 1 2, .hold 0]

theorem lock_discipline_contended :
    let session := (empty.run contended).2
    session.step (.read 1 1) = (.failed .handleInUse, session) ∧
      session.step (.hold 0) = (.failed .handleInUse, session) ∧
        session.KeepsLocks (session.step (.seek 0 9)).2 ∧
          session.MakesNothing (session.step (.seek 0 9)).2 := by
  intro session
  have hfirst : session.slots[0]? = some ⟨0, true⟩ := rfl
  have hsecond : session.slots[1]? = some ⟨0, false⟩ := rfl
  have hholds : session.Holds 0 0 := ⟨_, hfirst, rfl, rfl⟩
  obtain ⟨_, _, hrefused, hkeeps, _, hnothing⟩ := lock_discipline contended
  refine ⟨hrefused _ ?_, hrefused _ ?_, hkeeps _ ?_ ?_, hnothing _ trivial⟩
  · exact .user rfl hsecond (by decide) hholds
  · exact .taker rfl hfirst hholds
  · simp
  · simp

end Session

end MachO
