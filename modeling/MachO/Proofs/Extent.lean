import MachO.Proofs.Grammar
import MachO.Proofs.RandomAccess
import MachO.Proofs.Traversal

/-!
# Arrays of section headers in the bytes of their image

Reading an image bounds the place of every segment command, but not the number
of section headers that it claims.  So when the table of an image is built
over the bytes of the image, its arrays start inside the bytes, and the one
thing that can go wrong is that an array does not end inside them.
-/

namespace MachO

namespace Segment

def entrySize (segment : Segment) : Nat :=
  segment.width.sectionHeaderSize

def entryStart (segment : Segment) (i : Nat) : Nat :=
  segment.position + segment.headerSize + i * segment.entrySize

/-- The section headers of the segment, if it has any, end inside so many
bytes. -/
def Fits (segment : Segment) (length : Nat) : Prop :=
  0 < segment.sectionCount.toNat →
    segment.position + segment.headerSize +
      segment.sectionCount.toNat * segment.entrySize ≤ length

/-- The `i`-th section header is the first one of the segment that does not
end inside so many bytes. -/
def Overruns (segment : Segment) (length i : Nat) : Prop :=
  i < segment.sectionCount.toNat ∧
    (∀ j < i, segment.entryStart (j + 1) ≤ length) ∧
      length < segment.entryStart (i + 1)

variable {segment : Segment} {length : Nat}

theorem entryStart_succ (i : Nat) :
    segment.entryStart (i + 1) =
      segment.entryStart i + segment.entrySize := by
  rw [entryStart, entryStart, Nat.succ_mul, ← Nat.add_assoc]

theorem entryStart_mono {i j : Nat} (hle : i ≤ j) :
    segment.entryStart i ≤ segment.entryStart j :=
  Nat.add_le_add_left (Nat.mul_le_mul_right _ hle) _

theorem fits_iff_forall :
    segment.Fits length ↔
      ∀ i < segment.sectionCount.toNat,
        segment.entryStart (i + 1) ≤ length := by
  constructor
  · intro hfits i hi
    exact (entryStart_mono (Nat.succ_le_of_lt hi)).trans
      (hfits (Nat.zero_lt_of_lt hi))
  · intro hentries hpos
    have hlast := hentries (segment.sectionCount.toNat - 1) (by omega)
    rwa [Nat.sub_add_cancel hpos] at hlast

end Segment

namespace RandomAccess

variable (data : Bytes) (order : ByteOrder)

theorem headerAt_ofBytes (width : Width) (position : Nat) :
    (position + width.sectionHeaderSize ≤ data.length ∧
        ∃ header,
          Section.decode order
              ((data.drop position).take width.sectionHeaderSize) width =
            .ok header ∧
          headerAt (.ofBytes data) order width position = .ok header) ∨
      (data.length < position + width.sectionHeaderSize ∧
        headerAt (.ofBytes data) order width position =
          .error (.shortRead position width.sectionHeaderSize)) := by
  have hseek : (Medium.ofBytes data).seekFault? position = none := rfl
  rw [headerAt_eq hseek]
  rcases Stream.readSection_cases ⟨.ofBytes data, order, position⟩ width with
    ⟨htell, _⟩ | ⟨_, hfits, header, hheader, hread⟩ | ⟨_, hover, hread⟩
  · cases htell
  · exact Or.inl ⟨hfits, header, hheader, by rw [hread]⟩
  · exact Or.inr ⟨hover, by rw [hread]; rfl⟩

variable {data order} in
theorem headerAt_ofBytes_of_decode {width : Width} {position : Nat}
    {header : Section}
    (hinside : position + width.sectionHeaderSize ≤ data.length)
    (hdecode : Section.decode order
      ((data.drop position).take width.sectionHeaderSize) width =
        .ok header) :
    headerAt (.ofBytes data) order width position = .ok header := by
  rcases headerAt_ofBytes data order width position with
    ⟨_, other, hother, hread⟩ | ⟨hover, _⟩
  · rw [hdecode, Except.ok.injEq] at hother
    rw [hread, hother]
  · exact absurd hover (Nat.not_lt.mpr hinside)

theorem exists_headerAt_ofBytes_iff (width : Width) (position : Nat) :
    (∃ header, headerAt (.ofBytes data) order width position = .ok header) ↔
      position + width.sectionHeaderSize ≤ data.length := by
  rcases headerAt_ofBytes data order width position with
    ⟨hfits, header, _, hread⟩ | ⟨hover, hread⟩
  · exact ⟨fun _ => hfits, fun _ => ⟨header, hread⟩⟩
  · simp [hread, hover]

theorem headerAt_ofBytes_eq_error_iff (width : Width) (position : Nat)
    (failure : Error) :
    headerAt (.ofBytes data) order width position = .error failure ↔
      data.length < position + width.sectionHeaderSize ∧
        failure = .shortRead position width.sectionHeaderSize := by
  rcases headerAt_ofBytes data order width position with
    ⟨hfits, header, _, hread⟩ | ⟨hover, hread⟩
  · simp [hread, Nat.not_lt.mpr hfits]
  · simp [hread, hover, eq_comm]

variable {segment : Segment}

theorem headers_ofBytes
    (hrange : segment.position + segment.headerSize < 2 ^ 64) :
    headers (.ofBytes data) order segment.view =
      (List.range segment.sectionCount.toNat).mapM fun i =>
        headerAt (.ofBytes data) order segment.width
          (segment.entryStart i) := by
  -- A segment has one of the two forms, and in memory any position can be
  -- gone to, so nothing but the headers themselves can fail.
  have hform : forms.lookup segment.view.command = some segment.width := by
    rw [lookup_forms]
    exact segment.width?_view
  have hstart : ¬ 2 ^ 64 ≤
      segment.view.position + segment.view.headerSize :=
    Nat.not_le.mpr hrange
  simp only [headers, hform, if_neg hstart]
  rfl

theorem exists_headers_ofBytes_iff
    (hrange : segment.position + segment.headerSize < 2 ^ 64) :
    (∃ sections,
        headers (.ofBytes data) order segment.view = .ok sections) ↔
      segment.Fits data.length := by
  rw [headers_ofBytes data order hrange, Traversal.exists_mapM_iff,
    Segment.fits_iff_forall]
  simp only [List.mem_range, exists_headerAt_ofBytes_iff,
    Segment.entryStart_succ, Segment.entrySize]

theorem headers_ofBytes_eq_error_iff
    (hrange : segment.position + segment.headerSize < 2 ^ 64)
    (failure : Error) :
    headers (.ofBytes data) order segment.view = .error failure ↔
      ∃ i, segment.Overruns data.length i ∧
        failure = .shortRead (segment.entryStart i) segment.entrySize := by
  rw [headers_ofBytes data order hrange, Traversal.mapM_range_eq_error_iff]
  simp only [exists_headerAt_ofBytes_iff, headerAt_ofBytes_eq_error_iff,
    Segment.Overruns, Segment.entryStart_succ, Segment.entrySize, and_assoc]

end RandomAccess

namespace SectionTable

theorem exists_build_iff (views : List View) (stream : Stream) :
    (∃ table, (build views (.ofStream stream)).result = .ok table) ↔
      ∀ view ∈ views, ∃ sections,
        RandomAccess.headers stream.medium stream.order view =
          .ok sections := by
  rw [result_build, Scan.outcome_segments, ← Traversal.exists_mapM_iff]
  cases views.mapM (RandomAccess.headers stream.medium stream.order) <;>
    simp [Except.map]

theorem build_eq_error_iff (views : List View) (stream : Stream)
    (failure : Error) :
    (build views (.ofStream stream)).result = .error failure ↔
      views.mapM (RandomAccess.headers stream.medium stream.order) =
        .error failure := by
  rw [result_build, Scan.outcome_segments]
  cases views.mapM (RandomAccess.headers stream.medium stream.order) <;>
    simp [Except.map]

end SectionTable

namespace Image

variable {bytes : Bytes} {image : Image}

theorem start_lt_of_parse (hparse : parse bytes = .ok image)
    {segment : Segment} (hmem : segment ∈ image.segments) :
    segment.position + segment.headerSize < 2 ^ 64 := by
  obtain ⟨magic, haccepted, rfl⟩ := exists_accepted_of_parse hparse
  have hbounds := haccepted.bounds_of_mem hmem
  have hlimit := CommandArea.limit_ofImage_lt bytes magic
  simp only [addressableRange] at hlimit
  omega

/-- An array that ends inside its command ends inside the image. -/
theorem fits_of_command (hparse : parse bytes = .ok image)
    {segment : Segment} (hmem : segment ∈ image.segments)
    (hinside : segment.headerSize +
        segment.sectionCount.toNat * segment.entrySize ≤
      (image.order.word32At bytes (segment.position + 4)).toNat) :
    segment.Fits bytes.length := by
  obtain ⟨magic, haccepted, rfl⟩ := exists_accepted_of_parse hparse
  have hbounds := haccepted.bounds_of_mem hmem
  have hwhole := haccepted.whole
  simp only [ofCommands] at hinside
  intro _
  omega

theorem exists_headers_iff (hparse : parse bytes = .ok image)
    (order : ByteOrder) {segment : Segment}
    (hmem : segment ∈ image.segments) :
    (∃ sections, RandomAccess.headers (.ofBytes bytes) order segment.view =
        .ok sections) ↔
      segment.Fits bytes.length :=
  RandomAccess.exists_headers_ofBytes_iff bytes order
    (start_lt_of_parse hparse hmem)

theorem exists_build_iff_of_parse (hparse : parse bytes = .ok image)
    (order : ByteOrder) (cursor : Nat) :
    (∃ table, (SectionTable.build (image.segments.map Segment.view)
        (.ofStream ⟨.ofBytes bytes, order, cursor⟩)).result = .ok table) ↔
      ∀ segment ∈ image.segments, segment.Fits bytes.length := by
  rw [SectionTable.exists_build_iff, List.forall_mem_map]
  constructor
  · intro hheaders segment hmem
    exact (exists_headers_iff hparse order hmem).mp (hheaders segment hmem)
  · intro hfits segment hmem
    exact (exists_headers_iff hparse order hmem).mpr (hfits segment hmem)

theorem build_eq_error_iff_of_parse (hparse : parse bytes = .ok image)
    (order : ByteOrder) (cursor : Nat) (failure : Error) :
    (SectionTable.build (image.segments.map Segment.view)
        (.ofStream ⟨.ofBytes bytes, order, cursor⟩)).result =
          .error failure ↔
      ∃ before segment after i,
        image.segments = before ++ segment :: after ∧
          (∀ other ∈ before, other.Fits bytes.length) ∧
            segment.Overruns bytes.length i ∧
              failure =
                .shortRead (segment.entryStart i) segment.entrySize := by
  rw [SectionTable.build_eq_error_iff, List.mapM_map,
    Traversal.mapM_eq_error_iff]
  -- The segments before the failure are read whole, the failing one up to
  -- the header that overruns; both are settled segment by segment.
  have hbefore : ∀ {before segment after},
      image.segments = before ++ segment :: after →
        segment ∈ image.segments ∧
          ∀ other ∈ before, other ∈ image.segments := by
    intro before segment after hsegments
    simp +contextual [hsegments]
  constructor
  · rintro ⟨before, segment, after, hsegments, hread, hfail⟩
    obtain ⟨hmem, hmems⟩ := hbefore hsegments
    obtain ⟨i, hoverrun, hfailure⟩ :=
      (RandomAccess.headers_ofBytes_eq_error_iff bytes order
        (start_lt_of_parse hparse hmem) failure).mp hfail
    refine ⟨before, segment, after, i, hsegments, ?_, hoverrun, hfailure⟩
    intro other hother
    exact (exists_headers_iff hparse order (hmems other hother)).mp
      (hread other hother)
  · rintro ⟨before, segment, after, i, hsegments, hfits, hoverrun,
      hfailure⟩
    obtain ⟨hmem, hmems⟩ := hbefore hsegments
    refine ⟨before, segment, after, hsegments, ?_, ?_⟩
    · intro other hother
      exact (exists_headers_iff hparse order (hmems other hother)).mpr
        (hfits other hother)
    · exact (RandomAccess.headers_ofBytes_eq_error_iff bytes order
        (start_lt_of_parse hparse hmem) failure).mpr ⟨i, hoverrun, hfailure⟩

/-- Building the table of an image over the bytes of the image fails only at
the first section header that does not end inside them, with a short read.
It succeeds when every array ends inside its own command. -/
theorem build_of_parse (hparse : parse bytes = .ok image)
    (order : ByteOrder) (cursor : Nat) :
    let result := (SectionTable.build (image.segments.map Segment.view)
      (.ofStream ⟨.ofBytes bytes, order, cursor⟩)).result
    ((∃ table, result = .ok table) ↔
        ∀ segment ∈ image.segments, segment.Fits bytes.length) ∧
      (∀ failure, result = .error failure ↔
        ∃ before segment after i,
          image.segments = before ++ segment :: after ∧
            (∀ other ∈ before, other.Fits bytes.length) ∧
              segment.Overruns bytes.length i ∧
                failure =
                  .shortRead (segment.entryStart i) segment.entrySize) ∧
      ((∀ segment ∈ image.segments,
          segment.headerSize +
              segment.sectionCount.toNat * segment.entrySize ≤
            (image.order.word32At bytes (segment.position + 4)).toNat) →
        ∃ table, result = .ok table) := by
  have hok := exists_build_iff_of_parse hparse order cursor
  refine ⟨hok, build_eq_error_iff_of_parse hparse order cursor, ?_⟩
  intro hinside
  apply hok.mpr
  intro segment hmem
  exact fits_of_command hparse hmem (hinside segment hmem)

/-- A 32-bit image whose one segment claims two section headers, of which
only the first is whole. -/
def cutShort : Bytes :=
  [0xce, 0xfa, 0xed, 0xfe, 7, 0, 0, 0, 3, 0, 0, 0, 1, 0, 0, 0,
    1, 0, 0, 0, 56, 0, 0, 0, 0, 0, 0, 0,
    1, 0, 0, 0, 56, 0, 0, 0] ++ List.replicate 40 0 ++
      [2, 0, 0, 0, 0, 0, 0, 0] ++ List.replicate 100 0

theorem build_of_parse_cutShort :
    ∃ image, parse cutShort = .ok image ∧
      (SectionTable.build (image.segments.map Segment.view)
          (.ofStream ⟨.ofBytes cutShort, .little, 0⟩)).result =
        .error (.shortRead 152 68) := by
  have hparse : parse cutShort = .ok ⟨.little, .bits32,
      [⟨.blank, 0, 0, 0, 0, 0, 0, 2, 0, 28, .bits32⟩]⟩ := by
    decide +kernel
  have hlength : cutShort.length = 184 := by
    rfl
  refine ⟨_, hparse, ((build_of_parse hparse .little 0).2.1 _).mpr ?_⟩
  refine ⟨[], _, [], 1, rfl, by simp, ?_, rfl⟩
  rw [hlength]
  refine ⟨by decide, ?_, by decide⟩
  decide

end Image

end MachO
