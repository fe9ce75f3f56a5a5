import MachO.Proofs.Blueprint
import MachO.Proofs.Extent

/-!
# Images read back

What a blueprint says is what reading the image gives: the form and the order,
the segments with their places, and the section headers of all of them.

The bytes of an image are always a part in front, a command, and a part
behind.  A walk has the part in front behind it and does not look at the part
behind; a cursor goes over the part in front by its length.
-/

namespace MachO

namespace ByteOrder

theorem word32At_append (order : ByteOrder) (before : Bytes) (word : UInt32)
    (rest : Bytes) {offset : Nat} (hoffset : offset = before.length) :
    order.word32At (before ++ (order.ofWord32 word ++ rest)) offset =
      word := by
  have hlength := order.length_ofWord32 word
  rw [word32At, hoffset, List.drop_left, ← hlength, List.take_left,
    word32_ofWord32]

theorem word32At_flatMap (order : ByteOrder) {words : List UInt32}
    {i : Nat} {word : UInt32} (hword : words[i]? = some word)
    (rest : Bytes) :
    order.word32At (words.flatMap order.ofWord32 ++ rest) (4 * i) = word := by
  induction words generalizing i with
  | nil => simp at hword
  | cons first words ih =>
      rw [List.flatMap_cons, List.append_assoc]
      cases i with
      | zero =>
          simp only [List.getElem?_cons_zero, Option.some.injEq] at hword
          subst hword
          exact order.word32At_append [] first _ rfl
      | succ i =>
          rw [List.getElem?_cons_succ] at hword
          have hdrop : (order.ofWord32 first ++
              (words.flatMap order.ofWord32 ++ rest)).drop (4 * (i + 1)) =
              (words.flatMap order.ofWord32 ++ rest).drop (4 * i) := by
            have hlength := order.length_ofWord32 first
            have hoffset : 4 * (i + 1) - 4 = 4 * i := by
              omega
            rw [List.drop_append, hlength, List.drop_of_length_le (by omega),
              List.nil_append, hoffset]
          rw [word32At, hdrop]
          exact ih hword

end ByteOrder

theorem Magic.mem_words (order : ByteOrder) (width : Width) :
    (ByteOrder.little.word32 (order.ofWord32 width.magicWord),
      ⟨order, width⟩) ∈ words := by
  cases order <;> cases width <;> decide

namespace Section

theorem length_flatMap_bytes (order : ByteOrder) {width : Width}
    {sections : List Section} (hwidth : ∀ s ∈ sections, s.width = width) :
    (sections.flatMap (bytes order)).length =
      sections.length * width.sectionHeaderSize := by
  induction sections with
  | nil => simp
  | cons s sections ih =>
      have hfirst : (s.bytes order).length = width.sectionHeaderSize := by
        rw [length_bytes, hwidth s (List.mem_cons_self ..)]
      have hrest := ih fun other hother =>
        hwidth other (List.mem_cons_of_mem s hother)
      rw [List.flatMap_cons, List.length_append, hfirst, hrest,
        List.length_cons, Nat.succ_mul, Nat.add_comm]

theorem width_of_mem_narrow (sections : List NarrowSection) :
    ∀ s ∈ sections.map narrow, s.width = .bits32 := by
  intro s hmem
  obtain ⟨header, _, rfl⟩ := List.mem_map.mp hmem
  rfl

theorem width_of_mem_wide (sections : List WideSection) :
    ∀ s ∈ sections.map wide, s.width = .bits64 := by
  intro s hmem
  obtain ⟨header, _, rfl⟩ := List.mem_map.mp hmem
  rfl

end Section

namespace Draft

/-- The bytes of a command before its section headers. -/
def front (order : ByteOrder) : Draft → Bytes
  | narrow fields sections =>
      NarrowCommand.format.bytes order (narrowCommand fields sections)
  | wide fields sections =>
      WideCommand.format.bytes order (wideCommand fields sections)
  | other code body =>
      order.ofWord32 code ++
        (order.ofWord32 (UInt32.ofNat (8 + body.length)) ++ body)

def bytes (order : ByteOrder) (draft : Draft) : Bytes :=
  draft.front order ++ draft.sections.flatMap (Section.bytes order)

theorem length_bytes (order : ByteOrder) (draft : Draft) :
    (draft.bytes order).length = draft.size := by
  rw [bytes, List.length_append]
  cases draft with
  | narrow fields sections =>
      have hfront := NarrowCommand.inStep_format.length_bytes order
        (narrowCommand fields sections)
      have hheaders := Section.length_flatMap_bytes order
        (Section.width_of_mem_narrow sections)
      rw [front, hfront, Draft.sections, hheaders, List.length_map]
      rfl
  | wide fields sections =>
      have hfront := WideCommand.inStep_format.length_bytes order
        (wideCommand fields sections)
      have hheaders := Section.length_flatMap_bytes order
        (Section.width_of_mem_wide sections)
      rw [front, hfront, Draft.sections, hheaders, List.length_map]
      rfl
  | other code body =>
      simp only [front, Draft.sections, size, List.length_append,
        ByteOrder.length_ofWord32, List.flatMap_nil, List.length_nil]
      omega

theorem encode_eq_ok (order : ByteOrder) (draft : Draft) :
    draft.encode order = .ok (draft.bytes order) := by
  cases draft with
  | narrow fields sections =>
      have hcommand := NarrowCommand.inStep_format.encode_eq_ok order
        (narrowCommand fields sections)
      have hheaders := Traversal.mapM_eq_ok _
        (NarrowSection.inStep_format.encode_eq_ok order) sections
      rw [encode, hcommand, hheaders, bytes, front, Draft.sections,
        List.flatMap_map, List.flatMap_def]
      rfl
  | wide fields sections =>
      have hcommand := WideCommand.inStep_format.encode_eq_ok order
        (wideCommand fields sections)
      have hheaders := Traversal.mapM_eq_ok _
        (WideSection.inStep_format.encode_eq_ok order) sections
      rw [encode, hcommand, hheaders, bytes, front, Draft.sections,
        List.flatMap_map, List.flatMap_def]
      rfl
  | other code body =>
      simp only [encode, bytes, front, Draft.sections, List.flatMap_nil,
        List.append_nil]
      rfl

theorem exists_front_eq (order : ByteOrder) (draft : Draft) :
    ∃ body, draft.front order =
      order.ofWord32 draft.code ++
        (order.ofWord32 (UInt32.ofNat draft.size) ++ body) := by
  cases draft with
  | narrow fields sections =>
      let values :=
        NarrowCommand.format.toValues (narrowCommand fields sections)
      exact ⟨(values.drop 2).flatMap (Value.encode order), rfl⟩
  | wide fields sections =>
      let values := WideCommand.format.toValues (wideCommand fields sections)
      exact ⟨(values.drop 2).flatMap (Value.encode order), rfl⟩
  | other code body => exact ⟨body, rfl⟩

theorem exists_bytes_eq (order : ByteOrder) (draft : Draft) :
    ∃ body, draft.bytes order =
      order.ofWord32 draft.code ++
        (order.ofWord32 (UInt32.ofNat draft.size) ++ body) := by
  obtain ⟨body, hfront⟩ := draft.exists_front_eq order
  refine ⟨body ++ draft.sections.flatMap (Section.bytes order), ?_⟩
  rw [bytes, hfront, List.append_assoc, List.append_assoc]

theorem structureSize_le {draft : Draft} (hvalid : draft.Valid) :
    LoadCommand.structureSize draft.code ≤ draft.size := by
  cases draft with
  | narrow fields sections => exact Nat.le_add_right 56 _
  | wide fields sections => exact Nat.le_add_right 72 _
  | other code body => exact hvalid.2.2

theorem leastSize_le (draft : Draft) :
    LoadCommand.leastSize ≤ draft.size := by
  cases draft <;> simp only [LoadCommand.leastSize, size] <;> omega

theorem decode_bytes (order : ByteOrder) {draft : Draft} {position : Nat}
    {segment : Segment} (hsegment : draft.segment? position = some segment)
    (rest : Bytes) :
    Width.ofSegmentCode? draft.code = some segment.width ∧
      Segment.decode order position (draft.bytes order ++ rest)
        segment.width = .ok segment := by
  rw [bytes, List.append_assoc]
  cases draft with
  | narrow fields sections =>
      have hdecode := NarrowCommand.inStep_format.decode_bytes order
        (narrowCommand fields sections)
        ((sections.map Section.narrow).flatMap (Section.bytes order) ++ rest)
      cases hsegment
      refine ⟨rfl, ?_⟩
      simp only [Segment.decode, front, Draft.sections, hdecode]
      rfl
  | wide fields sections =>
      have hdecode := WideCommand.inStep_format.decode_bytes order
        (wideCommand fields sections)
        ((sections.map Section.wide).flatMap (Section.bytes order) ++ rest)
      cases hsegment
      refine ⟨rfl, ?_⟩
      simp only [Segment.decode, front, Draft.sections, hdecode]
      rfl
  | other code body => cases hsegment

theorem ofSegmentCode?_code {draft : Draft} (hvalid : draft.Valid)
    {position : Nat} (hnone : draft.segment? position = none) :
    Width.ofSegmentCode? draft.code = none := by
  cases draft with
  | narrow fields sections => cases hnone
  | wide fields sections => cases hnone
  | other code body =>
      rw [Draft.code, Width.ofSegmentCode?, if_neg hvalid.1,
        if_neg hvalid.2.1]

/-- A command is read from its bytes, whatever follows them. -/
theorem read_bytes (order : ByteOrder) {draft : Draft}
    (hvalid : draft.Valid) (hsize : draft.size < 2 ^ 32) (position : Nat)
    (rest : Bytes) :
    LoadCommand.read order position (draft.bytes order ++ rest) =
      .ok ⟨position, draft.code, UInt32.ofNat draft.size,
        draft.segment? position⟩ := by
  have hlength : (draft.bytes order ++ rest).length =
      draft.size + rest.length := by
    rw [List.length_append, length_bytes]
  have hnat : (UInt32.ofNat draft.size).toNat = draft.size :=
    UInt32.toNat_ofNat_of_lt' hsize
  have hleast := draft.leastSize_le
  have hstructure := structureSize_le hvalid
  obtain ⟨body, hbytes⟩ := draft.exists_bytes_eq order
  have hcode :
      order.word32At (draft.bytes order ++ rest) 0 = draft.code := by
    rw [hbytes, List.append_assoc]
    exact order.word32At_append [] draft.code _ rfl
  have hword : order.word32At (draft.bytes order ++ rest) 4 =
      UInt32.ofNat draft.size := by
    rw [hbytes, List.append_assoc, List.append_assoc]
    exact order.word32At_append _ _ _ (order.length_ofWord32 _).symm
  unfold LoadCommand.read
  simp only [hlength, hcode, hword, hnat]
  rw [if_neg (by omega), if_neg (by omega), if_neg (by omega)]
  cases hsegment : draft.segment? position with
  | none => simp only [ofSegmentCode?_code hvalid hsegment]
  | some segment =>
      obtain ⟨hwidth, hdecode⟩ := decode_bytes order hsegment rest
      simp only [hwidth, hdecode]

/-- A walk takes commands that lie one after the other for what they are. -/
theorem run_flatMap_bytes (order : ByteOrder) {drafts : List Draft}
    (hvalid : ∀ draft ∈ drafts, draft.Valid)
    (hsize : (drafts.map Draft.size).sum < 2 ^ 32) {position : Nat}
    (hposition : position + (drafts.map Draft.size).sum < addressableRange)
    (rest : Bytes) :
    (Walk.run order drafts.length position
        (drafts.flatMap (Draft.bytes order) ++ rest)).failure? = none ∧
      (Walk.run order drafts.length position
        (drafts.flatMap (Draft.bytes order) ++ rest)).segments =
          segmentsFrom position drafts := by
  induction drafts generalizing position with
  | nil => exact ⟨rfl, rfl⟩
  | cons draft drafts ih =>
      rw [List.map_cons, List.sum_cons] at hsize hposition
      have hsmall : draft.size < 2 ^ 32 := by
        omega
      have hread := read_bytes order (hvalid draft (List.mem_cons_self ..))
        hsmall position (drafts.flatMap (Draft.bytes order) ++ rest)
      have hnat : (UInt32.ofNat draft.size).toNat = draft.size :=
        UInt32.toNat_ofNat_of_lt' hsmall
      have hlength := draft.length_bytes order
      -- A walk goes on behind the size that a command says, which is its own.
      have hdrop : (draft.bytes order ++
            (drafts.flatMap (Draft.bytes order) ++ rest)).drop draft.size =
          drafts.flatMap (Draft.bytes order) ++ rest := by
        rw [← hlength, List.drop_left]
      have hin : ¬ addressableRange ≤ position + draft.size := by
        omega
      have hnext : position + draft.size +
          (drafts.map Draft.size).sum < addressableRange := by
        omega
      have hrest := ih
        (fun other hother => hvalid other (List.mem_cons_of_mem _ hother))
        (by omega) hnext
      rw [List.flatMap_cons, List.append_assoc, List.length_cons]
      simp only [Walk.run, hread, hnat, if_neg hin, hdrop]
      refine ⟨hrest.1, ?_⟩
      rw [segmentsFrom, ← hrest.2, Walk.segments, Walk.segments]
      cases draft.segment? position with
      | none =>
          simp only [List.filterMap_cons, Option.toList, List.nil_append]
      | some segment =>
          simp only [List.filterMap_cons, Option.toList,
            List.singleton_append]

end Draft

namespace RandomAccess

variable (order : ByteOrder)

theorem headerAt_bytes (before : Bytes) (s : Section) (rest : Bytes) :
    headerAt (.ofBytes (before ++ (s.bytes order ++ rest))) order s.width
        before.length =
      .ok s := by
  have hlength := s.length_bytes order
  have htotal : before.length + s.width.sectionHeaderSize ≤
      (before ++ (s.bytes order ++ rest)).length := by
    rw [List.length_append, List.length_append, hlength]
    omega
  have hstored : ((before ++ (s.bytes order ++ rest)).drop
        before.length).take s.width.sectionHeaderSize =
      s.bytes order := by
    rw [List.drop_left, ← hlength, List.take_left]
  have hdecode := s.decode_bytes order []
  rw [List.append_nil] at hdecode
  apply headerAt_ofBytes_of_decode htotal
  rw [hstored, hdecode]

theorem mapM_headerAt_bytes {width : Width} {sections : List Section}
    (hwidth : ∀ s ∈ sections, s.width = width) (before rest : Bytes) :
    (List.range sections.length).mapM (fun i =>
        headerAt (.ofBytes (before ++
            (sections.flatMap (Section.bytes order) ++ rest)))
          order width (before.length + i * width.sectionHeaderSize)) =
      .ok sections := by
  induction sections generalizing before with
  | nil => rfl
  | cons s sections ih =>
      have hform : s.width = width := hwidth s (List.mem_cons_self ..)
      have hfirst := headerAt_bytes order before s
        (sections.flatMap (Section.bytes order) ++ rest)
      have hrest := ih
        (fun other hother => hwidth other (List.mem_cons_of_mem _ hother))
        (before ++ s.bytes order)
      have hlength : (before ++ s.bytes order).length =
          before.length + width.sectionHeaderSize := by
        rw [List.length_append, s.length_bytes, hform]
      rw [hform] at hfirst
      rw [hlength, List.append_assoc] at hrest
      rw [List.flatMap_cons, List.append_assoc, List.length_cons,
        List.range_succ_eq_map, List.mapM_cons, List.mapM_map, Nat.zero_mul,
        Nat.add_zero, hfirst]
      have hshift : ∀ i, before.length +
            Nat.succ i * width.sectionHeaderSize =
          before.length + width.sectionHeaderSize +
            i * width.sectionHeaderSize := by
        intro i
        rw [Nat.succ_mul]
        omega
      simp only [Function.comp_def, hshift, hrest]
      rfl

end RandomAccess

namespace Draft

theorem sections_eq_nil {draft : Draft} {position : Nat}
    (hnone : draft.segment? position = none) :
    draft.sections = [] := by
  cases draft with
  | narrow fields sections => cases hnone
  | wide fields sections => cases hnone
  | other code body => rfl

theorem length_sections_lt {draft : Draft} (hsize : draft.size < 2 ^ 32) :
    draft.sections.length < 2 ^ 32 := by
  cases draft with
  | narrow fields sections =>
      simp only [size, Draft.sections, List.length_map] at hsize ⊢
      omega
  | wide fields sections =>
      simp only [size, Draft.sections, List.length_map] at hsize ⊢
      omega
  | other code body => simp [Draft.sections]

/-- The array of section headers that the segment of a command tells of is
that behind the fixed part of the command. -/
theorem array_of_segment? (order : ByteOrder) {draft : Draft}
    {position : Nat} {segment : Segment}
    (hsegment : draft.segment? position = some segment) :
    segment.position = position ∧
      segment.headerSize = (draft.front order).length ∧
      segment.sectionCount = UInt32.ofNat draft.sections.length ∧
      ∀ s ∈ draft.sections, s.width = segment.width := by
  cases draft with
  | narrow fields sections =>
      have hfront := NarrowCommand.inStep_format.length_bytes order
        (narrowCommand fields sections)
      cases hsegment
      refine ⟨rfl, hfront.symm, ?_, Section.width_of_mem_narrow sections⟩
      rw [Draft.sections, List.length_map]
  | wide fields sections =>
      have hfront := WideCommand.inStep_format.length_bytes order
        (wideCommand fields sections)
      cases hsegment
      refine ⟨rfl, hfront.symm, ?_, Section.width_of_mem_wide sections⟩
      rw [Draft.sections, List.length_map]
  | other code body => cases hsegment

theorem headers_bytes (order : ByteOrder) {draft : Draft}
    (hsize : draft.size < 2 ^ 32) (before rest : Bytes)
    (hrange : before.length + draft.size < addressableRange)
    {segment : Segment}
    (hsegment : draft.segment? before.length = some segment) :
    RandomAccess.headers
        (.ofBytes (before ++ (draft.bytes order ++ rest))) order
        segment.view =
      .ok draft.sections := by
  obtain ⟨hposition, hheader, hcount, hwidth⟩ :=
    array_of_segment? order hsegment
  have hlength := draft.length_bytes order
  rw [bytes, List.length_append] at hlength
  have hnat : segment.sectionCount.toNat = draft.sections.length := by
    rw [hcount]
    exact UInt32.toNat_ofNat_of_lt' (length_sections_lt hsize)
  have hstart : segment.position + segment.headerSize < 2 ^ 64 := by
    simp only [addressableRange] at hrange
    omega
  have hread := RandomAccess.mapM_headerAt_bytes order hwidth
    (before ++ draft.front order) rest
  rw [List.length_append, List.append_assoc] at hread
  rw [RandomAccess.headers_ofBytes _ order hstart, hnat, bytes,
    List.append_assoc]
  simp only [Segment.entryStart, Segment.entrySize, hposition, hheader, hread]

theorem exists_headers_flatMap_bytes (order : ByteOrder)
    {drafts : List Draft} (hsize : (drafts.map Draft.size).sum < 2 ^ 32)
    (before rest : Bytes)
    (hrange : before.length + (drafts.map Draft.size).sum <
      addressableRange) :
    ∃ arrays, ((segmentsFrom before.length drafts).map Segment.view).mapM
        (RandomAccess.headers (.ofBytes (before ++
          (drafts.flatMap (Draft.bytes order) ++ rest))) order) =
          .ok arrays ∧
      arrays.flatten = drafts.flatMap Draft.sections := by
  -- All that was written so far is in `before`, so that the places of the
  -- segments are the lengths of what stands in front of them.
  induction drafts generalizing before with
  | nil => exact ⟨[], rfl, rfl⟩
  | cons draft drafts ih =>
      rw [List.map_cons, List.sum_cons] at hsize hrange
      have hlength : (before ++ draft.bytes order).length =
          before.length + draft.size := by
        rw [List.length_append, length_bytes]
      obtain ⟨arrays, hread, hflatten⟩ :=
        ih (by omega) (before ++ draft.bytes order) (by omega)
      rw [hlength, List.append_assoc] at hread
      rw [List.flatMap_cons, List.append_assoc, segmentsFrom]
      cases hsegment : draft.segment? before.length with
      | none =>
          refine ⟨arrays, hread, ?_⟩
          rw [List.flatMap_cons, sections_eq_nil hsegment, hflatten,
            List.nil_append]
      | some segment =>
          have hfirst := headers_bytes order (by omega) before
            (drafts.flatMap (Draft.bytes order) ++ rest) (by omega) hsegment
          refine ⟨draft.sections :: arrays, ?_, ?_⟩
          · rw [Option.toList, List.singleton_append, List.map_cons,
              List.mapM_cons, hfirst]
            simp only [hread]
            rfl
          · rw [List.flatten_cons, List.flatMap_cons, hflatten]

end Draft

namespace Blueprint

variable (plan : Blueprint)

def header : Bytes :=
  plan.headerWords.flatMap plan.order.ofWord32

def bytes : Bytes :=
  plan.header ++
    (plan.drafts.flatMap (Draft.bytes plan.order) ++ plan.trailer)

theorem encode_eq_ok : plan.encode = .ok plan.bytes := by
  have hdrafts := Traversal.mapM_eq_ok _ (Draft.encode_eq_ok plan.order)
    plan.drafts
  rw [encode, hdrafts, bytes, header, List.flatMap_def]
  rfl

theorem length_header : plan.header.length = plan.width.imageHeaderSize := by
  unfold header headerWords
  cases plan.width <;> simp [Width.imageHeaderSize]

theorem length_commands :
    (plan.drafts.flatMap (Draft.bytes plan.order)).length =
      plan.commandsSize := by
  rw [List.length_flatMap, commandsSize]
  simp only [Draft.length_bytes]

theorem length_drafts_le : plan.drafts.length ≤ plan.commandsSize := by
  unfold commandsSize
  induction plan.drafts with
  | nil => exact le_rfl
  | cons draft drafts ih =>
      have hleast := draft.leastSize_le
      simp only [LoadCommand.leastSize] at hleast
      rw [List.length_cons, List.map_cons, List.sum_cons]
      omega

theorem announces_bytes : Announces plan.bytes ⟨plan.order, plan.width⟩ := by
  have hheader := plan.length_header
  have hleast : 4 ≤ plan.width.imageHeaderSize := by
    cases plan.width <;> simp [Width.imageHeaderSize]
  have hlength := plan.order.length_ofWord32 plan.width.magicWord
  have hfirst : (plan.bytes.drop 0).take 4 =
      plan.order.ofWord32 plan.width.magicWord := by
    rw [bytes, header, headerWords, List.drop_zero, List.cons_append,
      List.flatMap_cons, List.append_assoc, ← hlength, List.take_left]
  constructor
  · rw [bytes, List.length_append]
    omega
  · rw [ByteOrder.word32At, hfirst]
    exact Magic.mem_words plan.order plan.width

theorem commandCount_bytes (hsize : plan.commandsSize < 2 ^ 32) :
    (plan.order.word32At plan.bytes 16).toNat = plan.drafts.length := by
  have hcount := plan.length_drafts_le
  have hword : plan.headerWords[4]? =
      some (UInt32.ofNat plan.drafts.length) := rfl
  rw [bytes, header, plan.order.word32At_flatMap hword]
  exact UInt32.toNat_ofNat_of_lt' (lt_of_le_of_lt hcount hsize)

theorem commandsSize_bytes (hsize : plan.commandsSize < 2 ^ 32) :
    (plan.order.word32At plan.bytes 20).toNat = plan.commandsSize := by
  have hword : plan.headerWords[5]? =
      some (UInt32.ofNat plan.commandsSize) := rfl
  rw [bytes, header, plan.order.word32At_flatMap hword]
  exact UInt32.toNat_ofNat_of_lt' hsize

variable {plan}

theorem position_lt (hsize : plan.commandsSize < 2 ^ 32) :
    plan.header.length + plan.commandsSize < addressableRange := by
  have hheader : plan.header.length ≤ 32 := by
    rw [length_header]
    cases plan.width <;> simp [Width.imageHeaderSize]
  simp only [addressableRange]
  omega

theorem parse_bytes (hvalid : ∀ draft ∈ plan.drafts, draft.Valid)
    (hsize : plan.commandsSize < 2 ^ 32) :
    Image.parse plan.bytes = .ok plan.image := by
  have hmagic := plan.announces_bytes
  have hcount := plan.commandCount_bytes hsize
  have htable := plan.commandsSize_bytes hsize
  have hheader := plan.length_header
  have hcommands := plan.length_commands
  have hwhole : (CommandArea.ofImage plan.bytes
      ⟨plan.order, plan.width⟩).limit ≤ plan.bytes.length := by
    simp only [CommandArea.ofImage, htable]
    rw [bytes, List.length_append, List.length_append]
    omega
  have harea : (plan.bytes.drop plan.width.imageHeaderSize).take
      plan.commandsSize = plan.drafts.flatMap (Draft.bytes plan.order) := by
    rw [bytes, ← hheader, List.drop_left, ← hcommands, List.take_left]
  obtain ⟨hfailure, hsegments⟩ := Draft.run_flatMap_bytes plan.order hvalid
    hsize (position_lt hsize) []
  rw [List.append_nil, hheader] at hfailure hsegments
  simp only [Image.parse, Image.read, Image.read_eq_of_whole hmagic hwhole,
    Header.walk, Header.area, Header.size, hcount, htable, harea, hfailure,
    hsegments]
  rfl

/-- The table that is built over the bytes of the image has the section
headers that were described, wherever the cursor is left before. -/
theorem result_build_bytes (hsize : plan.commandsSize < 2 ^ 32)
    (cursor : Nat) :
    (SectionTable.build (plan.image.segments.map Segment.view)
        (.ofStream ⟨.ofBytes plan.bytes, plan.order, cursor⟩)).result =
      .ok ⟨plan.drafts.flatMap Draft.sections⟩ := by
  obtain ⟨arrays, hread, hflatten⟩ := Draft.exists_headers_flatMap_bytes
    plan.order hsize plan.header plan.trailer (position_lt hsize)
  rw [length_header] at hread
  rw [SectionTable.result_build, Scan.outcome_segments, image, bytes]
  simp only [hread, Except.map, hflatten]

/-- Every image that is written from a blueprint, whose load commands take
less than four gigabytes, reads back as what the blueprint says. -/
theorem reads_back (plan : Blueprint)
    (hvalid : ∀ draft ∈ plan.drafts, draft.Valid)
    (hsize : plan.commandsSize < 2 ^ 32) (cursor : Nat) :
    ∃ bytes, plan.encode = .ok bytes ∧
      Image.parse bytes = .ok plan.image ∧
      (SectionTable.build (plan.image.segments.map Segment.view)
          (.ofStream ⟨.ofBytes bytes, plan.order, cursor⟩)).result =
        .ok ⟨plan.drafts.flatMap Draft.sections⟩ :=
  ⟨plan.bytes, plan.encode_eq_ok, parse_bytes hvalid hsize,
    result_build_bytes hsize cursor⟩

/-- A 32-bit image with a segment of either form, and a command for symbols
between them. -/
def mixed : Blueprint where
  order := .big
  width := .bits32
  cpuType := 18
  cpuSubtype := 0
  fileType := 1
  flags := 0
  reserved := 0
  drafts := [
    .wide ⟨.ofText "__TEXT", 0x100000000, 4096, 0, 4096, 7, 5, 0⟩
      [⟨.ofText "__text", .ofText "__TEXT", 0x100000f00, 16, 3840, 4, 0, 0,
        0x80000400, 0, 0, 0⟩],
    .other 0x2 (List.replicate 16 0),
    .narrow ⟨.ofText "__DATA", 0x2000, 4096, 4096, 4096, 7, 3, 0⟩
      [⟨.ofText "__data", .ofText "__DATA", 0x2000, 8, 4096, 2, 0, 0, 0, 0,
        0⟩,
      ⟨.ofText "__bss", .ofText "__DATA", 0x2008, 64, 0, 3, 0, 0, 1, 0, 0⟩]]
  trailer := [0xde, 0xad]

theorem reads_back_mixed :
    (∀ draft ∈ mixed.drafts, draft.Valid) ∧
      mixed.commandsSize = 368 ∧
      ∃ bytes, mixed.encode = .ok bytes ∧
        Image.parse bytes = .ok mixed.image ∧
        (SectionTable.build (mixed.image.segments.map Segment.view)
            (.ofStream ⟨.ofBytes bytes, .big, 0⟩)).result =
          .ok ⟨mixed.drafts.flatMap Draft.sections⟩ := by
  have hvalid : ∀ draft ∈ mixed.drafts, draft.Valid := by
    decide
  have hsize : mixed.commandsSize = 368 := by
    rfl
  exact ⟨hvalid, hsize, reads_back mixed hvalid (by omega) 0⟩

end Blueprint

end MachO
