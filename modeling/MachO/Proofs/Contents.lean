import MachO.Proofs.Cursor
import MachO.Proofs.ReadPaths
import MachO.Proofs.RoundTrip
import MachO.Proofs.Truncation

/-!
# Contents of sections

A section header declares a range of the bytes of its image, by an offset and a
size of its own, and the contents of the section are the bytes in that range.
The sum of the two is taken exactly: a range that leaves the bytes is reported,
even one that would come around the end of the 64-bit range.

What is asked first decides the answer.  An index past the table names nothing,
a zero-fill section has no bytes wherever its header points, and only for the
others the stream is needed, which may be in use.
-/

namespace MachO

namespace Section

/-- The type is the low byte of the flags, whatever the attributes above it. -/
theorem toNat_type (s : Section) : s.type.toNat = s.flags.toNat % 256 := by
  rw [type, UInt32.toNat_and]
  exact Nat.and_two_pow_sub_one_eq_mod s.flags.toNat 8

theorem isZeroFill_iff (s : Section) :
    s.isZeroFill = true ↔ s.flags.toNat % 256 ∈ [0x1, 0xc, 0x12] := by
  have htype (code : UInt32) :
      s.type = code ↔ s.flags.toNat % 256 = code.toNat := by
    rw [← toNat_type, UInt32.toNat_inj]
  rw [isZeroFill, List.contains_iff_mem]
  simp only [zeroFillTypes, List.mem_cons, List.not_mem_nil, or_false, htype]
  rfl

end Section

namespace SectionTable

/-- In memory, the contents are the declared range, if all of it is there. -/
theorem readContents_ofBytes (s : Section) (bytes : Bytes)
    (order : ByteOrder) (here : Nat) :
    (readContents s ⟨.ofBytes bytes, order, here⟩).1 =
      if s.size = 0 ∨ s.offset + s.size ≤ bytes.length then
        .ok ((bytes.drop s.offset).take s.size)
      else
        .error (.shortRead s.offset s.size) := by
  have hread : readContents s ⟨.ofBytes bytes, order, here⟩ =
      (⟨.ofBytes bytes, order, s.offset⟩ : Stream).read s.size := rfl
  have htell : (⟨.ofBytes bytes, order, s.offset⟩ : Stream).medium.canTell =
      true := rfl
  rw [hread]
  by_cases hinside : s.size = 0 ∨ s.offset + s.size ≤ bytes.length
  · rw [if_pos hinside, Stream.read_of_met htell hinside]
    rfl
  · rw [if_neg hinside, Stream.read_of_unmet htell hinside]
    rfl

variable {table : SectionTable} {index : Nat}

theorem get?_eq_none_iff :
    table.get? index = none ↔ table.size ≤ index :=
  List.getElem?_eq_none_iff

/-- Nothing is answered exactly past the end of the table, whether the stream
is in use or not. -/
theorem contents_eq_none_iff (shared : SharedStream) :
    (table.contents index shared).1 = .ok none ↔ table.size ≤ index := by
  rw [← get?_eq_none_iff]
  cases hget : table.get? index with
  | none =>
      rw [contents_of_none hget]
      simp
  | some s =>
      cases hzero : s.isZeroFill with
      | true =>
          rw [contents_of_zeroFill hget hzero]
          simp
      | false =>
          rw [contents_of_stored hget hzero]
          cases (shared.exclusively (readContents s)).1 <;>
            simp [Except.map]

theorem contents_of_stored_free {s : Section}
    (hget : table.get? index = some s) (hstored : s.isZeroFill = false)
    (bytes : Bytes) (order : ByteOrder) (here : Nat) :
    (table.contents index (.ofStream ⟨.ofBytes bytes, order, here⟩)).1 =
      if s.size = 0 ∨ s.offset + s.size ≤ bytes.length then
        .ok (some ((bytes.drop s.offset).take s.size))
      else
        .error (.shortRead s.offset s.size) := by
  rw [contents_of_stored hget hstored, SharedStream.exclusively_of_free rfl]
  simp only [SharedStream.ofStream]
  rw [readContents_ofBytes]
  split <;> rfl

theorem contents_of_stored_held {s : Section}
    (hget : table.get? index = some s) (hstored : s.isZeroFill = false)
    {shared : SharedStream} (hlocked : shared.locked = true) :
    (table.contents index shared).1 = .error .handleInUse := by
  rw [contents_of_stored hget hstored,
    SharedStream.exclusively_of_locked hlocked]
  rfl

end SectionTable

namespace Image

variable {bytes : Bytes} {image : Image} {table : SectionTable}
  {order : ByteOrder} {cursor : Nat}

/-- Every section of a table is a header in the bytes, at its place in the
array of a segment. -/
theorem exists_headerAt_of_mem
    (htabulate : tabulate order cursor bytes = .ok (image, table))
    {s : Section} (hmem : s ∈ table.sections) :
    ∃ segment ∈ image.segments, ∃ i < segment.sectionCount.toNat,
      RandomAccess.headerAt (.ofBytes bytes) order segment.width
        (segment.entryStart i) = .ok s := by
  obtain ⟨hparse, hbuild⟩ := tabulate_eq_ok_iff.mp htabulate
  rw [SectionTable.result_build, Scan.outcome_segments] at hbuild
  cases harrays : (image.segments.map Segment.view).mapM
      (RandomAccess.headers (.ofBytes bytes) order) with
  | error failure => simp [harrays, Except.map] at hbuild
  | ok arrays =>
      simp only [harrays, Except.map, Except.ok.injEq] at hbuild
      subst hbuild
      obtain ⟨array, harray, hentry⟩ := List.mem_flatten.mp hmem
      obtain ⟨view, hview, hheaders⟩ :=
        Traversal.exists_of_mem_mapM _ harrays harray
      obtain ⟨segment, hsegment, rfl⟩ := List.mem_map.mp hview
      rw [RandomAccess.headers_ofBytes bytes order
        (start_lt_of_parse hparse hsegment)] at hheaders
      obtain ⟨i, hi, hheader⟩ :=
        Traversal.exists_of_mem_mapM _ hheaders hentry
      exact ⟨segment, hsegment, i, List.mem_range.mp hi, hheader⟩

/-- The contents of the sections of an image, with the stream free and with
the stream in use. -/
theorem contents_declared
    (htabulate : tabulate order cursor bytes = .ok (image, table))
    (index here : Nat) :
    let free := SharedStream.ofStream ⟨.ofBytes bytes, order, here⟩
    let held := { free with locked := true }
    ((table.contents index free).1 = .ok none ↔ table.size ≤ index) ∧
      ((table.contents index held).1 = .ok none ↔ table.size ≤ index) ∧
      ∀ s, table.get? index = some s →
        (∃ segment ∈ image.segments, ∃ i < segment.sectionCount.toNat,
          RandomAccess.headerAt (.ofBytes bytes) order segment.width
            (segment.entryStart i) = .ok s) ∧
        if s.flags.toNat % 256 ∈ [0x1, 0xc, 0x12] then
          (table.contents index free).1 = .ok (some []) ∧
            (table.contents index held).1 = .ok (some [])
        else
          (table.contents index free).1 =
              (if s.size = 0 ∨ s.offset + s.size ≤ bytes.length then
                .ok (some ((bytes.drop s.offset).take s.size))
              else
                .error (.shortRead s.offset s.size)) ∧
            (table.contents index held).1 = .error .handleInUse := by
  intro free held
  refine ⟨SectionTable.contents_eq_none_iff free,
    SectionTable.contents_eq_none_iff held, ?_⟩
  intro s hget
  have hmem : s ∈ table.sections := List.mem_of_getElem? hget
  refine ⟨exists_headerAt_of_mem htabulate hmem, ?_⟩
  by_cases htype : s.flags.toNat % 256 ∈ [0x1, 0xc, 0x12]
  · have hzero := s.isZeroFill_iff.mpr htype
    rw [if_pos htype, SectionTable.contents_of_zeroFill hget hzero,
      SectionTable.contents_of_zeroFill hget hzero]
    exact ⟨rfl, rfl⟩
  · have hstored : s.isZeroFill = false :=
      Bool.eq_false_iff.mpr (mt s.isZeroFill_iff.mp htype)
    rw [if_neg htype]
    exact ⟨SectionTable.contents_of_stored_free hget hstored bytes order here,
      SectionTable.contents_of_stored_held hget hstored rfl⟩

/-- A 64-bit image with four sections: the magic word, a range that would come
around the end of the 64-bit range, no bytes behind the end of the image, and
zero fill with attributes. -/
def declaring : Blueprint where
  order := .little
  width := .bits64
  cpuType := 0x1000007
  cpuSubtype := 3
  fileType := 1
  flags := 0
  reserved := 0
  drafts := [
    .wide ⟨.blank, 0, 0, 0, 0, 7, 7, 0⟩
      [⟨.blank, .blank, 0, 4, 0, 0, 0, 0, 0x80000400, 0, 0, 0⟩,
        ⟨.blank, .blank, 0, 0xffffffffffffffff, 0xffffffff, 0, 0, 0, 0, 0, 0,
          0⟩,
        ⟨.blank, .blank, 0, 0, 0xffffffff, 0, 0, 0, 0, 0, 0, 0⟩,
        ⟨.blank, .blank, 0, 64, 0xffffffff, 0, 0, 0, 0xabcdef12, 0, 0, 0⟩]]
  trailer := []

theorem contents_declared_declaring :
    ∃ bytes image table, tabulate .little 0 bytes = .ok (image, table) ∧
      let free := SharedStream.ofStream ⟨.ofBytes bytes, .little, 400⟩
      let held := { free with locked := true }
      (table.contents 0 free).1 = .ok (some [0xcf, 0xfa, 0xed, 0xfe]) ∧
        (table.contents 0 held).1 = .error .handleInUse ∧
        (table.contents 1 free).1 =
          .error (.shortRead 0xffffffff 0xffffffffffffffff) ∧
        (table.contents 2 free).1 = .ok (some []) ∧
        (table.contents 3 held).1 = .ok (some []) ∧
        (table.contents 4 held).1 = .ok none := by
  have hvalid : ∀ draft ∈ declaring.drafts, draft.Valid := by
    decide
  have hsize : declaring.commandsSize < 2 ^ 32 := by
    decide
  have hlength : declaring.bytes.length = 424 := by
    decide +kernel
  have htabulate := tabulate_eq_ok_iff.mpr
    ⟨Blueprint.parse_bytes hvalid hsize,
      Blueprint.result_build_bytes hsize 0⟩
  refine ⟨declaring.bytes, _, _, htabulate, ?_⟩
  intro free held
  obtain ⟨_, _, hfirst⟩ := contents_declared htabulate 0 400
  obtain ⟨_, _, hsecond⟩ := contents_declared htabulate 1 400
  obtain ⟨_, _, hthird⟩ := contents_declared htabulate 2 400
  obtain ⟨_, _, hfourth⟩ := contents_declared htabulate 3 400
  obtain ⟨_, hpast, _⟩ := contents_declared htabulate 4 400
  have hmagic := (hfirst _ rfl).2
  have hwrapping := (hsecond _ rfl).2
  have hempty := (hthird _ rfl).2
  have hzero := (hfourth _ rfl).2
  rw [if_neg (by decide)] at hmagic hwrapping hempty
  rw [if_pos (by decide)] at hzero
  rw [if_pos (by rw [hlength]; decide)] at hmagic hempty
  rw [if_neg (by rw [hlength]; decide)] at hwrapping
  refine ⟨hmagic.1.trans ?_, hmagic.2, hwrapping.1, hempty.1, hzero.2,
    hpast.mpr (by decide)⟩
  decide +kernel

end Image

end MachO
