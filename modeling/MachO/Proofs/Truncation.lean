import MachO.Proofs.Extent
import MachO.Proofs.Inspection

/-!
# Images that are cut or continued

How far an image reaches is decided by its header and its segments: to the end
of the area of the commands, or to the end of the farthest array of section
headers.  Cut anywhere before that, the bytes are refused for being too short;
what stands behind it is never looked at.

Two byte strings are compared here of which one is the front of the other.
Whatever is read inside the front is read from both alike, and the bounds of
the commands and of the section headers say that nothing else is read.
-/

namespace MachO

section Front

variable {front bytes : Bytes} {i count : Nat}

theorem agreeAt_of_front (hfront : front <+: bytes) :
    AgreeAt (· < front.length) front bytes := by
  obtain ⟨rest, rfl⟩ := hfront
  intro place hplace
  exact List.getElem?_append_left hplace

theorem take_drop_of_front (hfront : front <+: bytes)
    (hinside : i + count ≤ front.length) :
    (bytes.drop i).take count = (front.drop i).take count := by
  apply take_drop_of_agreeAt
  apply (agreeAt_of_front hfront).mono
  intro place hplace
  exact hplace.2.trans_le hinside

theorem ByteOrder.word32At_of_front (order : ByteOrder)
    (hfront : front <+: bytes) (hinside : i + 4 ≤ front.length) :
    order.word32At bytes i = order.word32At front i := by
  rw [word32At, word32At, take_drop_of_front hfront hinside]

end Front

/-- All that a walk looks at lies before the end of its area. -/
theorem CommandArea.agreeAt_of_front {area : CommandArea} {bytes : Bytes}
    (hfront : area.bytes <+: bytes)
    (hlimit : area.limit ≤ area.bytes.length) :
    AgreeAt area.Inspects area.bytes bytes := by
  apply (MachO.agreeAt_of_front hfront).mono
  intro place hinspects
  obtain ⟨_, _, _, _, hinside, _⟩ := hinspects.exists_command
  omega

/-! ## Images in the front of other bytes -/

section Front

variable {front bytes : Bytes} {magic : Magic}

theorem Announces.iff_of_front (hfront : front <+: bytes)
    (hlength : 4 ≤ front.length) :
    Announces front magic ↔ Announces bytes magic := by
  have hword := ByteOrder.little.word32At_of_front hfront
    (show 0 + 4 ≤ front.length by omega)
  have hlonger := hfront.length_le
  rw [Announces, Announces, hword]
  exact and_congr_left fun _ => iff_of_true hlength (by omega)

theorem CommandArea.ofImage_of_front (magic : Magic)
    (hfront : front <+: bytes) (hlength : 24 ≤ front.length) :
    ofImage bytes magic = (ofImage front magic).inside bytes := by
  rw [ofImage, ofImage, inside, magic.order.word32At_of_front hfront hlength,
    magic.order.word32At_of_front hfront (show 16 + 4 ≤ _ by omega)]

theorem CommandArea.header_le_limit (bytes : Bytes) (magic : Magic) :
    28 ≤ (ofImage bytes magic).first ∧
      (ofImage bytes magic).first ≤ (ofImage bytes magic).limit := by
  constructor
  · cases hwidth : magic.width <;>
      simp [ofImage, hwidth, Width.imageHeaderSize]
  · exact Nat.le_add_right _ _

namespace Image

theorem accepted_iff_of_front (hfront : front <+: bytes)
    (hwhole : (CommandArea.ofImage front magic).limit ≤ front.length) :
    Accepted front magic ↔ Accepted bytes magic := by
  have hheader := CommandArea.header_le_limit front magic
  have hlonger := hfront.length_le
  have hannounced : Announces front magic ↔ Announces bytes magic :=
    Announces.iff_of_front hfront (by omega)
  have harea := CommandArea.ofImage_of_front magic hfront (by omega)
  have hclear := CommandArea.clear_inside_iff
    (CommandArea.agreeAt_of_front hfront hwhole) le_rfl
  constructor
  · rintro ⟨hmagic, _, hcommands⟩
    refine ⟨hannounced.mp hmagic, ?_, ?_⟩
    · rw [harea]
      exact hwhole.trans hlonger
    · rw [harea]
      exact hclear.mpr hcommands
  · rintro ⟨hmagic, _, hcommands⟩
    rw [harea] at hcommands
    exact ⟨hannounced.mpr hmagic, hwhole, hclear.mp hcommands⟩

theorem Accepted.ofCommands_of_front (haccepted : Accepted front magic)
    (hfront : front <+: bytes) :
    ofCommands bytes magic = ofCommands front magic := by
  have hheader := CommandArea.header_le_limit front magic
  have hwhole := haccepted.whole
  rw [ofCommands, ofCommands,
    CommandArea.ofImage_of_front magic hfront (by omega),
    CommandArea.count_inside,
    CommandArea.commands_inside
      (CommandArea.agreeAt_of_front hfront hwhole) hwhole le_rfl
      haccepted.clear]

/-- What stands behind the commands has no influence on an image. -/
theorem parse_of_front (hfront : front <+: bytes) {image : Image}
    (hparse : parse front = .ok image) :
    parse bytes = .ok image := by
  obtain ⟨magic, haccepted, rfl⟩ := exists_accepted_of_parse hparse
  have hlonger : Accepted bytes magic :=
    (accepted_iff_of_front hfront haccepted.whole).mp haccepted
  rw [hlonger.parse_eq, haccepted.ofCommands_of_front hfront]

end Image

end Front

/-- The errors that tell that bytes are missing. -/
inductive Error.Missing : Error → Prop
  | shortRead (position expected : Nat) : Missing (.shortRead position expected)
  | header : Missing (.malformed .header)
  | commandTable : Missing (.malformed .commandTable)

namespace Segment

/-- Where the section headers of the segment end, if it has any. -/
def reach (segment : Segment) : Nat :=
  if segment.sectionCount.toNat = 0 then 0
  else segment.position + segment.headerSize +
    segment.sectionCount.toNat * segment.entrySize

theorem reach_le_iff (segment : Segment) (length : Nat) :
    segment.reach ≤ length ↔ segment.Fits length := by
  unfold reach Fits
  by_cases hnone : segment.sectionCount.toNat = 0
  · simp [hnone]
  · rw [if_neg hnone]
    exact ⟨fun h _ => h, fun h => h (Nat.pos_of_ne_zero hnone)⟩

end Segment

namespace RandomAccess

variable {front bytes : Bytes} (order : ByteOrder)

theorem headerAt_of_front (hfront : front <+: bytes) {width : Width}
    {position : Nat}
    (hinside : position + width.sectionHeaderSize ≤ front.length) :
    headerAt (.ofBytes bytes) order width position =
      headerAt (.ofBytes front) order width position := by
  rcases headerAt_ofBytes front order width position with
    ⟨_, header, hdecode, hread⟩ | ⟨hover, _⟩
  · rw [← take_drop_of_front hfront hinside] at hdecode
    rw [hread]
    exact headerAt_ofBytes_of_decode (hinside.trans hfront.length_le) hdecode
  · exact absurd hover (Nat.not_lt.mpr hinside)

theorem headers_of_front (hfront : front <+: bytes) {segment : Segment}
    (hrange : segment.position + segment.headerSize < 2 ^ 64)
    (hfits : segment.Fits front.length) :
    headers (.ofBytes bytes) order segment.view =
      headers (.ofBytes front) order segment.view := by
  rw [headers_ofBytes bytes order hrange, headers_ofBytes front order hrange]
  refine Traversal.mapM_congr fun i hi => ?_
  have hentry := Segment.fits_iff_forall.mp hfits i (List.mem_range.mp hi)
  rw [Segment.entryStart_succ] at hentry
  exact headerAt_of_front order hfront hentry

end RandomAccess

theorem SectionTable.result_build_congr {views : List View}
    {stream other : Stream}
    (hheaders : ∀ view ∈ views,
      RandomAccess.headers stream.medium stream.order view =
        RandomAccess.headers other.medium other.order view) :
    (build views (.ofStream stream)).result =
      (build views (.ofStream other)).result := by
  rw [result_build, result_build, Scan.outcome_segments,
    Scan.outcome_segments, Traversal.mapM_congr hheaders]

namespace Image

def commandsEnd (bytes : Bytes) (image : Image) : Nat :=
  image.width.imageHeaderSize + (image.order.word32At bytes 20).toNat

/-- Where the image ends, with its commands and its section headers. -/
def extent (bytes : Bytes) (image : Image) : Nat :=
  (image.segments.map Segment.reach).foldr max (image.commandsEnd bytes)

theorem extent_le_iff (bytes : Bytes) (image : Image) (length : Nat) :
    image.extent bytes ≤ length ↔
      image.commandsEnd bytes ≤ length ∧
        ∀ segment ∈ image.segments, segment.Fits length := by
  unfold extent
  induction image.segments with
  | nil => simp
  | cons segment segments ih =>
      rw [List.map_cons, List.foldr_cons, max_le_iff, ih,
        Segment.reach_le_iff, List.forall_mem_cons, and_left_comm]

/-- The image in the bytes and its table, which is built over the same bytes
by a stream that may have been used before. -/
def tabulate (order : ByteOrder) (cursor : Nat) (bytes : Bytes) :
    Except Error (Image × SectionTable) :=
  match parse bytes with
  | .error failure => .error failure
  | .ok image =>
      (SectionTable.build (image.segments.map Segment.view)
        (.ofStream ⟨.ofBytes bytes, order, cursor⟩)).result.map (image, ·)

variable {order : ByteOrder} {cursor : Nat} {front bytes : Bytes}
  {image : Image} {table : SectionTable}

theorem tabulate_of_parse (hparse : parse bytes = .ok image) :
    tabulate order cursor bytes =
      (SectionTable.build (image.segments.map Segment.view)
        (.ofStream ⟨.ofBytes bytes, order, cursor⟩)).result.map
          (image, ·) := by
  rw [tabulate, hparse]

theorem tabulate_of_refused {failure : Error}
    (hrefused : Refused bytes failure) :
    tabulate order cursor bytes = .error failure := by
  rw [tabulate, hrefused.parse_eq]

theorem tabulate_eq_ok_iff :
    tabulate order cursor bytes = .ok (image, table) ↔
      parse bytes = .ok image ∧
        (SectionTable.build (image.segments.map Segment.view)
          (.ofStream ⟨.ofBytes bytes, order, cursor⟩)).result = .ok table := by
  constructor
  · intro htabulate
    cases hparse : parse bytes with
    | error failure => simp [tabulate, hparse] at htabulate
    | ok other =>
        rw [tabulate_of_parse hparse] at htabulate
        cases hbuild : (SectionTable.build (other.segments.map Segment.view)
            (.ofStream ⟨.ofBytes bytes, order, cursor⟩)).result with
        | error failure => simp [hbuild, Except.map] at htabulate
        | ok found =>
            simp only [hbuild, Except.map, Except.ok.injEq,
              Prod.mk.injEq] at htabulate
            obtain ⟨rfl, rfl⟩ := htabulate
            exact ⟨rfl, hbuild⟩
  · rintro ⟨hparse, hbuild⟩
    rw [tabulate_of_parse hparse, hbuild]
    rfl

/-- Whatever is read of an image whose section headers are whole is read of it
in longer bytes too, and nothing else is. -/
theorem tabulate_of_front (hfront : front <+: bytes)
    (hparse : parse front = .ok image)
    (hfits : ∀ segment ∈ image.segments, segment.Fits front.length) :
    tabulate order cursor bytes = tabulate order cursor front := by
  have hlonger : parse bytes = .ok image := parse_of_front hfront hparse
  have hbuild : (SectionTable.build (image.segments.map Segment.view)
      (.ofStream ⟨.ofBytes bytes, order, cursor⟩)).result =
        (SectionTable.build (image.segments.map Segment.view)
          (.ofStream ⟨.ofBytes front, order, cursor⟩)).result := by
    apply SectionTable.result_build_congr
    rw [List.forall_mem_map]
    intro segment hmem
    exact RandomAccess.headers_of_front order hfront
      (start_lt_of_parse hparse hmem) (hfits segment hmem)
  rw [tabulate_of_parse hlonger, tabulate_of_parse hparse, hbuild]

/-! ## Cuts -/

theorem parse_front (hfront : front <+: bytes)
    (hparse : parse bytes = .ok image)
    (hwhole : image.commandsEnd bytes ≤ front.length) :
    parse front = .ok image := by
  obtain ⟨magic, haccepted, rfl⟩ := exists_accepted_of_parse hparse
  have hlimit : (CommandArea.ofImage bytes magic).limit ≤ front.length :=
    hwhole
  have hheader := CommandArea.header_le_limit bytes magic
  rw [CommandArea.ofImage_of_front magic hfront (by omega),
    CommandArea.limit_inside] at hlimit
  have hcut : Accepted front magic :=
    (accepted_iff_of_front hfront hlimit).mpr haccepted
  rw [hcut.parse_eq, hcut.ofCommands_of_front hfront]

theorem refused_of_cut (hfront : front <+: bytes)
    (hparse : parse bytes = .ok image)
    (hshort : front.length < image.commandsEnd bytes) :
    ∃ failure, Refused front failure ∧ failure.Missing := by
  obtain ⟨magic, haccepted, rfl⟩ := exists_accepted_of_parse hparse
  have hlimit : front.length < (CommandArea.ofImage bytes magic).limit :=
    hshort
  by_cases hword : front.length < 4
  · exact ⟨_, .noMagic hword, .shortRead 0 4⟩
  have hmagic : Announces front magic :=
    (Announces.iff_of_front hfront (by omega)).mpr haccepted.announced
  by_cases hheader : front.length < magic.width.imageHeaderSize
  · exact ⟨_, .header hmagic hheader, .header⟩
  have hlength : 28 ≤ front.length :=
    (CommandArea.header_le_limit front magic).1.trans (Nat.not_lt.mp hheader)
  rw [CommandArea.ofImage_of_front magic hfront (by omega),
    CommandArea.limit_inside] at hlimit
  exact ⟨_, .commandTable hmagic (Nat.not_lt.mp hheader) hlimit,
    .commandTable⟩

theorem tabulate_of_overrun (hparse : parse bytes = .ok image)
    (hover : ¬ ∀ segment ∈ image.segments, segment.Fits bytes.length) :
    ∃ failure, tabulate order cursor bytes = .error failure ∧
      failure.Missing := by
  have hbuild :=
    mt (exists_build_iff_of_parse hparse order cursor).mp hover
  cases hresult : (SectionTable.build (image.segments.map Segment.view)
      (.ofStream ⟨.ofBytes bytes, order, cursor⟩)).result with
  | ok table => exact absurd ⟨table, hresult⟩ hbuild
  | error failure =>
      refine ⟨failure, ?_, ?_⟩
      · rw [tabulate_of_parse hparse, hresult]
        rfl
      · obtain ⟨_, _, _, _, _, _, _, hfailure⟩ :=
          (build_eq_error_iff_of_parse hparse order cursor failure).mp hresult
        rw [hfailure]
        exact .shortRead _ _

theorem tabulate_of_cut (hfront : front <+: bytes)
    (hparse : parse bytes = .ok image)
    (hshort : front.length < image.extent bytes) :
    ∃ failure, tabulate order cursor front = .error failure ∧
      failure.Missing := by
  -- Before the end of the commands the header finds the cut, and behind it
  -- the first section header that does not end inside the front.
  by_cases hcommands : front.length < image.commandsEnd bytes
  · obtain ⟨failure, hrefused, hmissing⟩ :=
      refused_of_cut hfront hparse hcommands
    exact ⟨failure, tabulate_of_refused hrefused, hmissing⟩
  · have hwhole : image.commandsEnd bytes ≤ front.length := by omega
    apply tabulate_of_overrun (parse_front hfront hparse hwhole)
    intro hfits
    have hextent := (extent_le_iff bytes image front.length).mpr
      ⟨hwhole, hfits⟩
    omega

/-- A cut of the bytes changes nothing behind the end of the image and is
noticed before it, and bytes that are added at the end change nothing. -/
theorem tabulate_take_and_append
    (htabulate : tabulate order cursor bytes = .ok (image, table)) :
    (∀ n, image.extent bytes ≤ n →
        tabulate order cursor (bytes.take n) = .ok (image, table)) ∧
      (∀ n < image.extent bytes, ∃ failure,
        tabulate order cursor (bytes.take n) = .error failure ∧
          failure.Missing) ∧
      ∀ rest, tabulate order cursor (bytes ++ rest) = .ok (image, table) := by
  obtain ⟨hparse, hbuild⟩ := tabulate_eq_ok_iff.mp htabulate
  have hfits : ∀ segment ∈ image.segments, segment.Fits bytes.length :=
    (exists_build_iff_of_parse hparse order cursor).mp ⟨table, hbuild⟩
  have hend : image.commandsEnd bytes ≤ bytes.length := by
    obtain ⟨magic, haccepted, rfl⟩ := exists_accepted_of_parse hparse
    exact haccepted.whole
  have hextent : image.extent bytes ≤ bytes.length :=
    (extent_le_iff bytes image bytes.length).mpr ⟨hend, hfits⟩
  refine ⟨fun n hn => ?_, fun n hn => ?_, fun rest => ?_⟩
  · have hfront : bytes.take n <+: bytes := List.take_prefix n bytes
    have hlength : image.extent bytes ≤ (bytes.take n).length := by
      rw [List.length_take]
      exact le_min hn hextent
    obtain ⟨hwhole, hfitsFront⟩ := (extent_le_iff _ _ _).mp hlength
    rw [← htabulate]
    exact (tabulate_of_front hfront
      (parse_front hfront hparse hwhole) hfitsFront).symm
  · apply tabulate_of_cut (List.take_prefix n bytes) hparse
    exact (List.length_take_le n bytes).trans_lt hn
  · rw [← htabulate]
    exact tabulate_of_front (List.prefix_append bytes rest) hparse hfits

/-- A 32-bit image whose one section header stands behind the area of the
commands, with three bytes behind it. -/
def trailing : Bytes :=
  [0xce, 0xfa, 0xed, 0xfe, 7, 0, 0, 0, 3, 0, 0, 0, 1, 0, 0, 0,
    1, 0, 0, 0, 56, 0, 0, 0, 0, 0, 0, 0,
    1, 0, 0, 0, 56, 0, 0, 0] ++ List.replicate 40 0 ++
      [1, 0, 0, 0, 0, 0, 0, 0] ++ List.replicate 71 0

def trailingSegment : Segment :=
  ⟨.blank, 0, 0, 0, 0, 0, 0, 1, 0, 28, .bits32⟩

theorem tabulate_take_and_append_trailing :
    ∃ image table, tabulate .little 0 trailing = .ok (image, table) ∧
      tabulate .little 0 (trailing.take 152) = .ok (image, table) ∧
        (∃ failure, tabulate .little 0 (trailing.take 151) = .error failure ∧
          failure.Missing) ∧
          tabulate .little 0 (trailing ++ trailing) = .ok (image, table) := by
  have hparse : parse trailing =
      .ok ⟨.little, .bits32, [trailingSegment]⟩ := by
    decide +kernel
  have hextent :
      extent trailing ⟨.little, .bits32, [trailingSegment]⟩ = 152 := by
    decide +kernel
  have hlength : extent trailing ⟨.little, .bits32, [trailingSegment]⟩ ≤
      trailing.length := by
    rw [hextent]
    decide +kernel
  obtain ⟨table, hbuild⟩ := (exists_build_iff_of_parse hparse .little 0).mpr
    ((extent_le_iff _ _ _).mp hlength).2
  have htabulate := tabulate_eq_ok_iff.mpr ⟨hparse, hbuild⟩
  obtain ⟨hbehind, hbefore, happend⟩ := tabulate_take_and_append htabulate
  exact ⟨_, table, htabulate, hbehind 152 hextent.le,
    hbefore 151 (by rw [hextent]; decide), happend trailing⟩

end Image

end MachO
