import MachO.Proofs.Cursor
import MachO.Proofs.Grammar
import MachO.Proofs.ReadPaths
import MachO.Proofs.Traversal

/-!
# Freedom from defects

A defect is a caller's mistake: a table of fields that a codec does not keep in
step with, too few bytes for a field, a position outside the 64-bit range.  No
bytes, no medium and no list of views bring one about.

Each operation is shown free of defects from those that it is made of, down to
the codecs, which keep in step with their tables.  A table is built free of
defects because its headers are those at their places.
-/

namespace MachO

/-- The computation does not end in a caller's mistake. -/
def DefectFree {α : Type} (result : Except Error α) : Prop :=
  ∀ mistake, result ≠ .error (.defect mistake)

namespace DefectFree

variable {α β : Type}

theorem ok (value : α) : DefectFree (.ok value) := by
  intro mistake hresult
  cases hresult

theorem of_error {result : Except Error α} (hfree : DefectFree result)
    {failure : Error} (hresult : result = .error failure) :
    DefectFree (.error failure : Except Error β) := by
  intro mistake hmistake
  cases hmistake
  exact hfree mistake hresult

theorem map {result : Except Error α} (hfree : DefectFree result)
    (f : α → β) :
    DefectFree (result.map f) := by
  cases result with
  | ok value => exact ok (f value)
  | error failure => exact hfree.of_error rfl

theorem mapM {step : α → Except Error β}
    (hstep : ∀ element, DefectFree (step element)) (list : List α) :
    DefectFree (list.mapM step) := by
  intro mistake hresult
  obtain ⟨_, element, _, _, _, hfailure⟩ :=
    (Traversal.mapM_eq_error_iff step list _).mp hresult
  exact hstep element mistake hfailure

end DefectFree

/-! ## Section headers -/

theorem Format.InStep.exists_found {Record : Type}
    {format : Format Record} (hstep : format.InStep) (order : ByteOrder)
    (bytes : Bytes) :
    ∃ found, format.decodeFront? order bytes = .ok found := by
  by_cases hshort : bytes.length < format.size
  · exact ⟨none, decodeFront?_of_lt hshort⟩
  · obtain ⟨record, hsome, _⟩ :=
      hstep.exists_decodeFront? order (Nat.not_lt.mp hshort)
    exact ⟨some record, hsome⟩

theorem Section.exists_decodeFront? (order : ByteOrder) (bytes : Bytes)
    (width : Width) :
    ∃ found, decodeFront? order bytes width = .ok found := by
  cases width with
  | bits32 =>
      obtain ⟨found, hfound⟩ :=
        NarrowSection.inStep_format.exists_found order bytes
      exact ⟨found.map narrow, by rw [decodeFront?, hfound]; rfl⟩
  | bits64 =>
      obtain ⟨found, hfound⟩ :=
        WideSection.inStep_format.exists_found order bytes
      exact ⟨found.map wide, by rw [decodeFront?, hfound]; rfl⟩

/-! ## Reading images -/

theorem Image.defectFree_parse (bytes : Bytes) : DefectFree (parse bytes) := by
  intro mistake hparse
  cases refused_of_parse hparse

/-! ## Streams -/

namespace Stream

theorem defectFree_seek (position : Nat) (stream : Stream) :
    DefectFree (stream.seek position).1 := by
  intro mistake hseek
  unfold seek at hseek
  cases hfault : stream.medium.seekFault? position <;>
    simp [hfault] at hseek

theorem defectFree_tell (stream : Stream) : DefectFree stream.tell := by
  intro mistake htell
  unfold tell at htell
  split at htell <;> simp at htell

theorem defectFree_read (count : Nat) (stream : Stream) :
    DefectFree (stream.read count).1 := by
  intro mistake hread
  cases htell : stream.medium.canTell with
  | false =>
      rw [read_of_untold htell] at hread
      cases hread
  | true =>
      by_cases hmet : count = 0 ∨
          stream.cursor + count ≤ stream.medium.stop
      · rw [read_of_met htell hmet] at hread
        cases hread
      · rw [read_of_unmet htell hmet] at hread
        split at hread <;> simp at hread

theorem defectFree_readSection (width : Width) (stream : Stream) :
    DefectFree (stream.readSection width).1 := by
  intro mistake hread
  rcases stream.readSection_cases width with
    ⟨_, hcase⟩ | ⟨_, _, header, _, hcase⟩ | ⟨_, _, hcase⟩
  · rw [hcase] at hread
    cases hread
  · rw [hcase] at hread
    cases hread
  · rw [hcase, Medium.shortageAt_error] at hread
    split at hread <;> simp at hread

end Stream

namespace SharedStream

variable {α : Type} {operation : Stream → Except Error α × Stream}

theorem defectFree_within (hfree : ∀ stream, DefectFree (operation stream).1)
    (shared : SharedStream) :
    DefectFree (shared.within operation).1 :=
  hfree shared.stream

theorem defectFree_exclusively
    (hfree : ∀ stream, DefectFree (operation stream).1)
    (shared : SharedStream) :
    DefectFree (shared.exclusively operation).1 := by
  cases hlocked : shared.locked with
  | true =>
      rw [exclusively_of_locked hlocked]
      intro mistake hresult
      cases hresult
  | false =>
      rw [exclusively_of_free hlocked]
      exact hfree shared.stream

end SharedStream

/-! ## Tables -/

theorem RandomAccess.defectFree_headerAt (medium : Medium) (order : ByteOrder)
    (width : Width) (position : Nat) :
    DefectFree (headerAt medium order width position) := by
  have hseek := (Stream.start order medium).defectFree_seek position
  unfold headerAt
  split
  · next hresult => exact hseek.of_error (congrArg Prod.fst hresult)
  · next stream _ => exact stream.defectFree_readSection width

theorem RandomAccess.defectFree_headers (medium : Medium) (order : ByteOrder)
    (view : View) :
    DefectFree (headers medium order view) := by
  have hseek := (Stream.start order medium).defectFree_seek
    (view.position + view.headerSize)
  unfold headers
  split
  · intro mistake hresult
    cases hresult
  · split
    · intro mistake hresult
      cases hresult
    · split
      · next hresult => exact hseek.of_error (congrArg Prod.fst hresult)
      · exact .mapM (fun _ => defectFree_headerAt medium order _ _) _

namespace SectionTable

theorem defectFree_build (views : List View) (shared : SharedStream) :
    DefectFree (build views shared).result := by
  cases hlocked : shared.locked with
  | true =>
      rw [build_of_locked hlocked]
      intro mistake hresult
      cases hresult
  | false =>
      rw [SharedStream.eq_ofStream hlocked, result_build, Scan.outcome_segments]
      apply DefectFree.map
      apply DefectFree.map
      exact .mapM (RandomAccess.defectFree_headers _ _) views

theorem defectFree_readContents (s : Section) (stream : Stream) :
    DefectFree (readContents s stream).1 := by
  have hseek := stream.defectFree_seek s.offset
  unfold readContents
  split
  · next hresult => exact hseek.of_error (congrArg Prod.fst hresult)
  · next after _ => exact after.defectFree_read s.size

theorem defectFree_contents (table : SectionTable) (index : Nat)
    (shared : SharedStream) :
    DefectFree (table.contents index shared).1 := by
  cases hget : table.get? index with
  | none =>
      rw [contents_of_none hget]
      exact .ok none
  | some s =>
      cases hzero : s.isZeroFill with
      | true =>
          rw [contents_of_zeroFill hget hzero]
          exact .ok (some [])
      | false =>
          rw [contents_of_stored hget hzero]
          apply DefectFree.map
          exact SharedStream.defectFree_exclusively
            (defectFree_readContents s) shared

/-- A section that is found is one of the table. -/
theorem exists_get?_of_find? {table : SectionTable}
    {segmentName sectionName : String} {index : Nat}
    (hfind : table.find? segmentName sectionName = some index) :
    ∃ s, table.get? index = some s := by
  obtain ⟨hindex, _⟩ := List.findIdx?_eq_some_iff_getElem.mp hfind
  exact ⟨_, List.getElem?_eq_getElem hindex⟩

end SectionTable

end MachO
