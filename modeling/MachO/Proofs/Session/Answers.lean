import MachO.Proofs.DefectFree
import MachO.Proofs.Ranges
import MachO.Session.Step

/-!
# Answers of a session

A session passes on what its operations come to, so none of its answers is a
caller's mistake.  This holds step by step and needs nothing of the session:
its streams may stand anywhere, under any locks, and its tables may hold any
section headers.
-/

namespace MachO

/-- The answer is not a caller's mistake. -/
def Answer.DefectFree : Answer → Prop
  | failed failure => ∀ mistake, failure ≠ .defect mistake
  | _ => True

theorem Answer.defectFree_ofResult {α : Type} {answer : α → Answer}
    {result : Except Error α} (hanswer : ∀ value, (answer value).DefectFree)
    (hfree : MachO.DefectFree result) :
    (ofResult answer result).DefectFree := by
  cases result with
  | ok value => exact hanswer value
  | error failure =>
      intro mistake hmistake
      exact hfree mistake (congrArg Except.error hmistake)

namespace Session

theorem defectFree_operate {α : Type}
    {operation : Stream → Except Error α × Stream} {answer : α → Answer}
    (hfree : ∀ stream, DefectFree (operation stream).1)
    (hanswer : ∀ value, (answer value).DefectFree)
    (session : Session) (number : Nat) :
    (session.operate number operation answer).1.DefectFree := by
  unfold operate
  cases session.slot? number with
  | none => trivial
  | some found =>
      obtain ⟨slot, shared⟩ := found
      apply Answer.defectFree_ofResult hanswer
      cases slot.holds with
      | true => exact SharedStream.defectFree_within hfree shared
      | false => exact SharedStream.defectFree_exclusively hfree shared

theorem defectFree_hold (session : Session) (number : Nat) :
    (session.hold number).1.DefectFree := by
  unfold hold
  split
  · trivial
  · next slot shared _ =>
    unfold SharedStream.acquire
    cases shared.locked with
    | true =>
        intro mistake hmistake
        cases hmistake
    | false => trivial

theorem defectFree_drop (session : Session) (number : Nat) :
    (session.drop number).1.DefectFree := by
  unfold drop
  split
  · trivial
  · split <;> trivial

theorem defectFree_breakOff (session : Session) (number position : Nat) :
    (session.breakOff number position).1.DefectFree := by
  unfold breakOff
  split
  · trivial
  · next slot shared _ =>
    apply Answer.defectFree_ofResult
    · intro value
      trivial
    · exact SharedStream.defectFree_exclusively
        (Stream.defectFree_seek position) shared

theorem defectFree_parse (session : Session) (bytes : Bytes) :
    (session.parse bytes).1.DefectFree := by
  unfold parse
  split
  · next failure hparse =>
    intro mistake hmistake
    subst hmistake
    exact Image.defectFree_parse bytes mistake hparse
  · trivial

theorem defectFree_build (session : Session) (number : Nat)
    (views : List View) :
    (session.build number views).1.DefectFree := by
  unfold build
  split
  · trivial
  · next slot shared _ =>
    simp only
    split
    · next failure hbuild =>
      intro mistake hmistake
      subst hmistake
      exact SectionTable.defectFree_build views shared mistake hbuild
    · trivial

theorem defectFree_contents (session : Session) (number index : Nat) :
    (session.contents number index).1.DefectFree := by
  unfold contents
  split
  · trivial
  · next sourced shared _ =>
    apply Answer.defectFree_ofResult
    · intro value
      cases value <;> trivial
    · exact SectionTable.defectFree_contents sourced.table index shared

theorem defectFree_lookUp (session : Session) (number : Nat)
    (place : SectionTable → Option Nat) :
    (session.lookUp number place).1.DefectFree := by
  unfold lookUp
  split
  · trivial
  · split
    · trivial
    · split <;> trivial

theorem defectFree_consult {answer : SectionTable → Answer}
    (hanswer : ∀ table, (answer table).DefectFree)
    (session : Session) (number : Nat) :
    (session.consult number answer).1.DefectFree := by
  unfold consult
  split
  · trivial
  · next sourced _ => exact hanswer sourced.table

theorem defectFree_step (session : Session) (step : Step) :
    (session.step step).1.DefectFree := by
  cases step with
  | hold slot => exact session.defectFree_hold slot
  | drop slot => exact session.defectFree_drop slot
  | breakOff slot position => exact session.defectFree_breakOff slot position
  | byteOrder slot =>
      apply defectFree_operate fun stream => .ok stream.order
      intro order
      trivial
  | seek slot position =>
      apply defectFree_operate (Stream.defectFree_seek position)
      intro value
      trivial
  | tell slot =>
      apply defectFree_operate Stream.defectFree_tell
      intro position
      trivial
  | read slot count =>
      apply defectFree_operate (Stream.defectFree_read count)
      intro bytes
      trivial
  | readSection slot width =>
      apply defectFree_operate (Stream.defectFree_readSection width)
      intro header
      trivial
  | parse bytes => exact session.defectFree_parse bytes
  | build slot views => exact session.defectFree_build slot views
  | buildImage slot image =>
      simp only [Session.step]
      split
      · trivial
      · exact session.defectFree_build slot _
  | contents table index => exact session.defectFree_contents table index
  | size table | names table | display table =>
      apply defectFree_consult
      intro table
      trivial
  | get table index =>
      apply defectFree_consult
      intro table
      cases table.get? index <;> trivial
  | refer table | find table => exact session.defectFree_lookUp table _
  | start => trivial
  | share | shareSource | sameStream | sameReference =>
      simp only [Session.step]
      split <;> trivial
  | outline =>
      simp only [Session.step]
      split
      · trivial
      · split <;> trivial

theorem defectFree_run (session : Session) (steps : List Step)
    {answer : Answer} (hmem : answer ∈ (session.run steps).1) :
    answer.DefectFree := by
  induction steps generalizing session with
  | nil => cases hmem
  | cons step steps ih =>
      rcases List.mem_cons.mp hmem with rfl | hrest
      · exact session.defectFree_step step
      · exact ih (session.step step).2 hrest

end Session

/-- Bytes, media and views bring about no defect, in whatever session they are
used: what is decoded and encoded keeps in step with its table, a walk stays
inside the bytes, arrays start at the plain sum of position and size, and
powers of two are taken where they fit. -/
theorem inputs_reach_no_defect (bytes : Bytes) (order : ByteOrder)
    (width : Width) (stream : Stream) (shared : SharedStream)
    (views : List View) (table : SectionTable) (s : Section)
    (name : FixedName) (session : Session) (steps : List Step) :
    DefectFree (Image.parse bytes) ∧
      (∀ header, Header.read bytes = .ok header →
        ∀ command ∈ (header.walk bytes).commands,
          command.position + command.size.toNat ≤ bytes.length ∧
            command.position + command.size.toNat < addressableRange) ∧
      (∃ found, Section.decodeFront? order bytes width = .ok found) ∧
      (∃ stored, s.encode order = .ok stored) ∧
      DefectFree (stream.readSection width).1 ∧
      DefectFree (SectionTable.build views shared).result ∧
      (∀ entries form start,
        .reading entries form start ∈
            (SectionTable.build views shared).events →
          ∃ view ∈ views, start = view.position + view.headerSize ∧
            start < addressableRange) ∧
      (∀ built, (SectionTable.build views shared).result = .ok built →
        ∀ view ∈ views,
          view.position + view.headerSize < addressableRange) ∧
      (∀ index, DefectFree (table.contents index shared).1) ∧
      (∀ segmentName sectionName index,
        table.find? segmentName sectionName = some index →
          ∃ found, table.get? index = some found) ∧
      name.content <+: name.raw ∧
      s.alignment =
        (if s.alignmentExponent.toNat < 64 then
          2 ^ s.alignmentExponent.toNat
        else 0) ∧
      s.alignment < addressableRange ∧
      ∀ mistake, .failed (.defect mistake) ∉ (session.run steps).1 := by
  refine ⟨Image.defectFree_parse bytes, ?_,
    Section.exists_decodeFront? order bytes width,
    ⟨_, Section.encode_eq_ok order s⟩, stream.defectFree_readSection width,
    SectionTable.defectFree_build views shared, ?_, ?_,
    fun index => table.defectFree_contents index shared, ?_,
    name.content_prefix, s.alignment_eq, s.alignment_lt, ?_⟩
  · intro header hread command hmem
    exact Header.end_of_mem_walk hread hmem
  · intro entries form start hmem
    exact SectionTable.start_of_reading_mem_build hmem
  · intro built hbuild view hview
    exact SectionTable.start_lt_of_build hbuild hview
  · intro segmentName sectionName index hfind
    exact SectionTable.exists_get?_of_find? hfind
  · intro mistake hmem
    exact session.defectFree_run steps hmem mistake rfl

/-- Two arrays, of which one starts at the end of the 64-bit range and the other
one behind it. -/
def topmost : List View :=
  [⟨2 ^ 64 - 1, 0, 0, 0x1⟩, ⟨2 ^ 64 - 1, 1, 0, 0x19⟩]

theorem inputs_reach_no_defect_topmost :
    let shared := SharedStream.ofStream (.start .little (.ofBytes []))
    (SectionTable.build topmost shared).result =
        .error (.positionOverflow (2 ^ 64 - 1) 1) ∧
      (∃ view ∈ topmost, 2 ^ 64 - 1 = view.position + view.headerSize) ∧
      ∃ header command, Header.read Image.cutShort = .ok header ∧
        command ∈ (header.walk Image.cutShort).commands ∧
          command.position + command.size.toNat ≤ 184 := by
  intro shared
  have hevent : .reading 0 .bits32 (2 ^ 64 - 1) ∈
      (SectionTable.build topmost shared).events := by
    decide +kernel
  have hread : Header.read Image.cutShort =
      .ok ⟨⟨.little, .bits32⟩, 1, 56⟩ := by
    decide +kernel
  have hcommand : ⟨28, 1, 56, some ⟨.blank, 0, 0, 0, 0, 0, 0, 2, 0, 28,
      .bits32⟩⟩ ∈ (Header.walk ⟨⟨.little, .bits32⟩, 1, 56⟩
        Image.cutShort).commands := by
    decide +kernel
  obtain ⟨_, hwalk, _, _, _, _, hstart, _⟩ :=
    inputs_reach_no_defect Image.cutShort .little .bits32
      (.start .little (.ofBytes [])) shared topmost ⟨[]⟩
      (.narrow ⟨.blank, .blank, 0, 0, 0, 64, 0, 0, 0, 0, 0⟩) .blank .empty []
  obtain ⟨view, hview, hsum, _⟩ := hstart 0 .bits32 _ hevent
  refine ⟨by decide +kernel, ⟨view, hview, hsum⟩, _, _, hread, hcommand, ?_⟩
  exact (hwalk _ hread _ hcommand).1

end MachO
