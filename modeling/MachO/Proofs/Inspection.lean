import MachO.Proofs.Places

/-!
# What reading an image looks at

The bytes that decide how an image is read are few: the magic word, two words of
the header, the first two words of every command that the walk comes to, and the
fixed parts of the segment commands that it takes.  Which places these are
depends on the sizes in the bytes themselves.

Two byte strings of one length that agree at these places are compared.  Their
walks stay at the same offsets: as long as they do, they find the same words
there, and so they go on to the same offset, or stop with the same error.
-/

namespace MachO

/-- The bytes are the same at the given places. -/
def AgreeAt (places : Nat → Prop) (bytes other : Bytes) : Prop :=
  ∀ place, places place → other[place]? = bytes[place]?

theorem AgreeAt.mono {places fewer : Nat → Prop} {bytes other : Bytes}
    (hagree : AgreeAt places bytes other)
    (hfewer : ∀ place, fewer place → places place) :
    AgreeAt fewer bytes other :=
  fun place hplace => hagree place (hfewer place hplace)

section Window

variable {bytes other : Bytes} {i count : Nat}

theorem take_drop_of_agreeAt
    (hagree : AgreeAt (fun place => i ≤ place ∧ place < i + count) bytes
      other) :
    (other.drop i).take count = (bytes.drop i).take count := by
  apply List.ext_getElem?
  intro j
  rw [List.getElem?_take, List.getElem?_take]
  split
  · rw [List.getElem?_drop, List.getElem?_drop]
    exact hagree (i + j) ⟨by omega, by omega⟩
  · rfl

theorem ByteOrder.word32At_of_agreeAt (order : ByteOrder)
    (hagree : AgreeAt (fun place => i ≤ place ∧ place < i + 4) bytes other) :
    order.word32At other i = order.word32At bytes i := by
  rw [word32At, word32At, take_drop_of_agreeAt hagree]

theorem Segment.decode_of_agreeAt (order : ByteOrder) (position : Nat)
    {width : Width}
    (hagree : AgreeAt
      (fun place => i ≤ place ∧ place < i + width.segmentHeaderSize) bytes
      other)
    (hinside : i + width.segmentHeaderSize ≤ bytes.length) :
    decode order position (other.drop i) width =
      decode order position (bytes.drop i) width := by
  have hsame := take_drop_of_agreeAt hagree
  have hlength : width.segmentHeaderSize ≤ (bytes.drop i).length := by
    rw [List.length_drop]
    omega
  have hother : width.segmentHeaderSize ≤ (other.drop i).length := by
    have htaken := congrArg List.length hsame
    rw [List.length_take, List.length_take, min_eq_left hlength] at htaken
    exact min_eq_left_iff.mp htaken
  rw [← decode_take order position le_rfl hlength,
    ← decode_take order position le_rfl hother, hsame]

end Window

namespace CommandArea

/-- The area with the same bounds in other bytes. -/
def inside (area : CommandArea) (bytes : Bytes) : CommandArea :=
  { area with bytes }

variable {area : CommandArea} {other : Bytes}

@[simp] theorem limit_inside : (area.inside other).limit = area.limit := rfl

@[simp] theorem count_inside : (area.inside other).count = area.count := rfl

/-- The places that decide what a walk takes: the first two words of a command
that it comes to, if the area has them, and the fixed part of a segment command
that breaks no rule. -/
inductive Inspects (area : CommandArea) : (place : Nat) → Prop
  | words {k place : Nat} (hk : k < area.count) (hclear : area.Clear k)
      (hwhole : area.offset k + 8 ≤ area.limit)
      (hfrom : area.offset k ≤ place) (hto : place < area.offset k + 8) :
      Inspects area place
  | segment {k place : Nat} {width : Width} (hk : k < area.count)
      (hclear : area.Clear (k + 1))
      (hcode : area.codeAt (area.offset k) = width.segmentCode)
      (hfrom : area.offset k ≤ place)
      (hto : place < area.offset k + width.segmentHeaderSize) :
      Inspects area place

theorem clear_zero : area.Clear 0 :=
  fun k hk => absurd hk (Nat.not_lt_zero k)

theorem clear_succ_iff (count : Nat) :
    area.Clear (count + 1) ↔
      area.Clear count ∧ area.violation? (area.offset count) = none :=
  Nat.forall_lt_succ_right

theorem Clear.succ {k : Nat} (hclear : area.Clear k)
    (hnone : area.violation? (area.offset k) = none) : area.Clear (k + 1) :=
  (clear_succ_iff k).mpr ⟨hclear, hnone⟩

section Agreement

variable (hagree : AgreeAt area.Inspects area.bytes other) {k : Nat}
  (hk : k < area.count) (hclear : area.Clear k)

include hagree hk hclear

theorem codeAt_inside (hwhole : area.offset k + 8 ≤ area.limit) :
    (area.inside other).codeAt (area.offset k) =
      area.codeAt (area.offset k) := by
  apply area.order.word32At_of_agreeAt
  rintro place ⟨hfrom, hto⟩
  exact hagree place (.words hk hclear hwhole hfrom (by omega))

theorem sizeAt_inside (hwhole : area.offset k + 8 ≤ area.limit) :
    (area.inside other).sizeAt (area.offset k) =
      area.sizeAt (area.offset k) := by
  apply area.order.word32At_of_agreeAt
  rintro place ⟨hfrom, hto⟩
  exact hagree place (.words hk hclear hwhole (by omega) (by omega))

theorem violation?_inside :
    (area.inside other).violation? (area.offset k) =
      area.violation? (area.offset k) := by
  by_cases hheader : area.limit < area.offset k + 8
  · rw [violation?, violation?, limit_inside, if_pos hheader, if_pos hheader]
  · have hwhole : area.offset k + 8 ≤ area.limit := Nat.not_lt.mp hheader
    have hcode := codeAt_inside hagree hk hclear hwhole
    have hsize := sizeAt_inside hagree hk hclear hwhole
    simp only [violation?, limit_inside, hcode, hsize]

theorem commandAt_inside (hlimit : area.limit ≤ area.bytes.length)
    (hnone : area.violation? (area.offset k) = none) :
    (area.inside other).commandAt (area.offset k) =
      area.commandAt (area.offset k) := by
  have hbounds := bounds_of_violation?_eq_none hnone
  have hcode := codeAt_inside hagree hk hclear (by omega)
  have hsize := sizeAt_inside hagree hk hclear (by omega)
  have hsegment : (area.inside other).segmentAt? (area.offset k) =
      area.segmentAt? (area.offset k) := by
    simp only [segmentAt?, hcode]
    cases hwidth : Width.ofSegmentCode? (area.codeAt (area.offset k)) with
    | none => rfl
    | some width =>
        have hleast := segmentHeaderSize_le_of_violation?_eq_none hnone hwidth
        have hfixed : AgreeAt (fun place => area.offset k ≤ place ∧
            place < area.offset k + width.segmentHeaderSize) area.bytes
            other := by
          rintro place ⟨hfrom, hto⟩
          exact hagree place (.segment hk (hclear.succ hnone)
            (Width.segmentCode_of_ofSegmentCode? hwidth).symm hfrom hto)
        have hdecode := Segment.decode_of_agreeAt area.order (area.offset k)
          hfixed (by omega)
        simp only [inside, hdecode]
  rw [commandAt, commandAt, hcode, hsize, hsegment]

end Agreement

section Agreement

variable (hagree : AgreeAt area.Inspects area.bytes other)

include hagree

/-- The two walks are at the same offset after any number of commands that
break no rule. -/
theorem offset_inside {count : Nat} (hcount : count ≤ area.count)
    (hclear : area.Clear count) :
    (area.inside other).offset count = area.offset count := by
  induction count with
  | zero => rfl
  | succ count ih =>
      have hbefore : area.Clear count := hclear.mono (Nat.le_succ count)
      have hbounds :=
        bounds_of_violation?_eq_none (hclear count (Nat.lt_succ_self count))
      have hsize := sizeAt_inside hagree hcount hbefore (by omega)
      rw [offset, offset, ih (by omega) hbefore, hsize]

theorem violation?_offset_inside {k : Nat} (hk : k < area.count)
    (hclear : area.Clear k) :
    (area.inside other).violation? ((area.inside other).offset k) =
      area.violation? (area.offset k) := by
  rw [offset_inside hagree hk.le hclear, violation?_inside hagree hk hclear]

theorem clear_inside_iff {count : Nat} (hcount : count ≤ area.count) :
    (area.inside other).Clear count ↔ area.Clear count := by
  induction count with
  | zero => exact iff_of_true clear_zero clear_zero
  | succ count ih =>
      rw [clear_succ_iff, clear_succ_iff, ih (by omega)]
      refine and_congr_right fun hclear => ?_
      rw [violation?_offset_inside hagree hcount hclear]

theorem commands_inside (hlimit : area.limit ≤ area.bytes.length)
    {count : Nat} (hcount : count ≤ area.count) (hclear : area.Clear count) :
    (area.inside other).commands count = area.commands count := by
  refine List.map_congr_left fun k hk => ?_
  have hlt : k < count := List.mem_range.mp hk
  have hbefore : area.Clear k := hclear.mono hlt.le
  rw [offset_inside hagree (by omega) hbefore,
    commandAt_inside hagree (by omega) hbefore hlimit (hclear k hlt)]

end Agreement

/-! ### What a walk passes over -/

/-- Places that a walk leaves alone: the bodies of the commands that it skips,
what segment commands have behind their fixed parts, what is behind the last
command, and all that is behind the area. -/
inductive Ignores (area : CommandArea) : (place : Nat) → Prop
  | body {k place : Nat} (hk : k < area.count) (hclear : area.Clear (k + 1))
      (hcode : ∀ width : Width,
        area.codeAt (area.offset k) ≠ width.segmentCode)
      (hfrom : area.offset k + 8 ≤ place)
      (hto : place < area.offset (k + 1)) :
      Ignores area place
  | behindFixedPart {k place : Nat} {width : Width} (hk : k < area.count)
      (hclear : area.Clear (k + 1))
      (hcode : area.codeAt (area.offset k) = width.segmentCode)
      (hfrom : area.offset k + width.segmentHeaderSize ≤ place)
      (hto : place < area.offset (k + 1)) :
      Ignores area place
  | behindLast {place : Nat} (hclear : area.Clear area.count)
      (hfrom : area.offset area.count ≤ place) :
      Ignores area place
  | behindArea {place : Nat} (hfrom : area.limit ≤ place) :
      Ignores area place

theorem Inspects.exists_command {place : Nat}
    (hinspects : area.Inspects place) :
    ∃ k < area.count, area.Clear k ∧ area.offset k ≤ place ∧
      place < area.limit ∧
      (area.violation? (area.offset k) = none →
        place < area.offset (k + 1)) ∧
      (place < area.offset k + 8 ∨
        ∃ width : Width, area.codeAt (area.offset k) = width.segmentCode ∧
          place < area.offset k + width.segmentHeaderSize) := by
  cases hinspects with
  | @words k _ hk hclear hwhole hfrom hto =>
      refine ⟨k, hk, hclear, hfrom, by omega, fun hnone => ?_, Or.inl hto⟩
      have hbounds := bounds_of_violation?_eq_none hnone
      rw [offset]
      omega
  | @segment k _ width hk hclear hcode hfrom hto =>
      obtain ⟨hbefore, hnone⟩ := (clear_succ_iff k).mp hclear
      have hbounds := bounds_of_violation?_eq_none hnone
      have hleast : width.segmentHeaderSize ≤
          (area.sizeAt (area.offset k)).toNat := by
        apply segmentHeaderSize_le_of_violation?_eq_none hnone
        rw [hcode, Width.ofSegmentCode?_segmentCode]
      refine ⟨k, hk, hbefore, hfrom, by omega, fun _ => ?_,
        Or.inr ⟨width, hcode, hto⟩⟩
      rw [offset]
      omega

/-- The commands lie one behind the other, so a place inside one of them is
inspected on account of no other one. -/
theorem Inspects.of_inside {k place : Nat} (hinspects : area.Inspects place)
    (hclear : area.Clear (k + 1)) (hfrom : area.offset k ≤ place)
    (hto : place < area.offset (k + 1)) :
    place < area.offset k + 8 ∨
      ∃ width : Width, area.codeAt (area.offset k) = width.segmentCode ∧
        place < area.offset k + width.segmentHeaderSize := by
  obtain ⟨j, _, _, hlow, _, hhigh, hreach⟩ := hinspects.exists_command
  rcases Nat.lt_trichotomy j k with hlt | rfl | hgt
  · have hend := hhigh (hclear j (by omega))
    have hmono : area.offset (j + 1) ≤ area.offset k := offset_mono hlt
    omega
  · exact hreach
  · have hmono : area.offset (k + 1) ≤ area.offset j := offset_mono hgt
    omega

theorem Ignores.not_inspects {place : Nat} (hignores : area.Ignores place) :
    ¬ area.Inspects place := by
  intro hinspects
  cases hignores with
  | @body k _ hk hclear hcode hfrom hto =>
      rcases hinspects.of_inside hclear (by omega) hto with
        hwords | ⟨width, hsegment, _⟩
      · omega
      · exact hcode width hsegment
  | @behindFixedPart k _ width hk hclear hcode hfrom hto =>
      have hleast : 8 ≤ width.segmentHeaderSize := by
        cases width <;> simp [Width.segmentHeaderSize]
      rcases hinspects.of_inside hclear (by omega) hto with
        hwords | ⟨other, hsegment, hother⟩
      · omega
      · have hsame : width = other := by
          have hform := congrArg Width.ofSegmentCode? (hcode.symm.trans hsegment)
          simpa using hform
        subst hsame
        omega
  | behindLast hclear hfrom =>
      obtain ⟨k, hk, _, _, _, hend, _⟩ := hinspects.exists_command
      have hinside := hend (hclear k hk)
      have hmono : area.offset (k + 1) ≤ area.offset area.count :=
        offset_mono hk
      omega
  | behindArea hfrom =>
      obtain ⟨_, _, _, _, hinside, _⟩ := hinspects.exists_command
      omega

end CommandArea

/-! ## Headers -/

/-- The places of the magic word, of the number of commands and of the size of
their area. -/
def Header.Inspects (place : Nat) : Prop :=
  place < 4 ∨ 16 ≤ place ∧ place < 24

theorem Announces.unique {bytes : Bytes} {first second : Magic}
    (hfirst : Announces bytes first) (hsecond : Announces bytes second) :
    first = second := by
  have hdetect := Magic.detect_of_mem hfirst.2
  rw [Magic.detect_of_mem hsecond.2] at hdetect
  cases hdetect
  rfl

section Agreement

variable {bytes other : Bytes} (hagree : AgreeAt Header.Inspects bytes other)

include hagree

theorem Header.word32At_of_agreeAt (order : ByteOrder) {i : Nat}
    (hi : i = 0 ∨ i = 16 ∨ i = 20) :
    order.word32At other i = order.word32At bytes i := by
  apply order.word32At_of_agreeAt
  rintro place ⟨hfrom, hto⟩
  refine hagree place ?_
  unfold Inspects
  omega

theorem Header.read_of_agreeAt (hlength : other.length = bytes.length) :
    Header.read other = Header.read bytes := by
  have hmagic (order : ByteOrder) :
      order.word32At other 0 = order.word32At bytes 0 :=
    word32At_of_agreeAt hagree order (by simp)
  have hcount (order : ByteOrder) :
      order.word32At other 16 = order.word32At bytes 16 :=
    word32At_of_agreeAt hagree order (by simp)
  have hsize (order : ByteOrder) :
      order.word32At other 20 = order.word32At bytes 20 :=
    word32At_of_agreeAt hagree order (by simp)
  simp only [Header.read, readAs, hlength, hmagic, hcount, hsize]

theorem Announces.of_agreeAt (hlength : other.length = bytes.length)
    {magic : Magic} (hmagic : Announces bytes magic) :
    Announces other magic := by
  rw [Announces, hlength, Header.word32At_of_agreeAt hagree _ (by simp)]
  exact hmagic

theorem CommandArea.ofImage_of_agreeAt (magic : Magic) :
    ofImage other magic = (ofImage bytes magic).inside other := by
  rw [ofImage, ofImage, inside,
    Header.word32At_of_agreeAt hagree magic.order (by simp),
    Header.word32At_of_agreeAt hagree magic.order (by simp)]

end Agreement

/-! ## Images -/

namespace Image

/-- The places that decide how an image is read. -/
inductive Inspects (bytes : Bytes) : (place : Nat) → Prop
  | header {place : Nat} (hinspects : Header.Inspects place) :
      Inspects bytes place
  | commands {place : Nat} {magic : Magic} (hmagic : Announces bytes magic)
      (hwhole : (CommandArea.ofImage bytes magic).limit ≤ bytes.length)
      (hinspects : (CommandArea.ofImage bytes magic).Inspects place) :
      Inspects bytes place

/-- Places with no influence: the other words of the header, and what a walk
over the commands passes over. -/
inductive Ignores (bytes : Bytes) (magic : Magic) : (place : Nat) → Prop
  | header {place : Nat} (hinside : place < magic.width.imageHeaderSize)
      (hother : ¬ Header.Inspects place) :
      Ignores bytes magic place
  | commands {place : Nat} (hbehind : magic.width.imageHeaderSize ≤ place)
      (hignores : (CommandArea.ofImage bytes magic).Ignores place) :
      Ignores bytes magic place

variable {bytes other : Bytes} {magic : Magic}

theorem Ignores.not_inspects (hmagic : Announces bytes magic) {place : Nat}
    (hignores : Ignores bytes magic place) :
    ¬ Inspects bytes place := by
  have hheader : 28 ≤ magic.width.imageHeaderSize := by
    cases magic.width <;> simp [Width.imageHeaderSize]
  intro hinspects
  cases hignores with
  | header hinside hother =>
      cases hinspects with
      | header hinspects => exact hother hinspects
      | commands hsame hwhole hinspects =>
          obtain rfl := hmagic.unique hsame
          obtain ⟨k, _, _, hfrom, _⟩ := hinspects.exists_command
          have hfirst : (CommandArea.ofImage bytes magic).offset 0 ≤
              (CommandArea.ofImage bytes magic).offset k :=
            CommandArea.offset_mono (Nat.zero_le k)
          exact absurd (hfirst.trans hfrom) (Nat.not_le.mpr hinside)
  | commands hbehind hignores =>
      cases hinspects with
      | header hinspects =>
          unfold Header.Inspects at hinspects
          omega
      | commands hsame hwhole hinspects =>
          obtain rfl := hmagic.unique hsame
          exact hignores.not_inspects hinspects

/-- Two byte strings of one length that agree where the first one is looked at
are read alike, with the same reports. -/
theorem read_of_agreeAt (hlength : other.length = bytes.length)
    (hagree : AgreeAt (Inspects bytes) bytes other) :
    read other = read bytes := by
  have hheader : AgreeAt Header.Inspects bytes other :=
    fun place h => hagree place (.header h)
  have hsame := Header.read_of_agreeAt hheader hlength
  cases hread : Header.read bytes with
  | error failure => simp only [read, hsame, hread]
  | ok header =>
      obtain ⟨magic, hmagic, hwhole⟩ := Header.exists_announces_of_read hread
      have hmagicOther := hmagic.of_agreeAt hheader hlength
      have harea := CommandArea.ofImage_of_agreeAt hheader magic
      have hwholeOther : (CommandArea.ofImage other magic).limit ≤
          other.length := by
        rw [harea, hlength]
        exact hwhole
      have hcommands : AgreeAt (CommandArea.ofImage bytes magic).Inspects
          bytes other :=
        fun place h => hagree place (.commands hmagic hwhole h)
      -- Both walks come to the end, or to the same first violation.
      rcases CommandArea.clear_or_first_violation
          (CommandArea.ofImage bytes magic).count with
        hclear | ⟨k, hk, hclear, rule, hrule⟩
      · have haccepted : Accepted bytes magic := ⟨hmagic, hwhole, hclear⟩
        have hother : Accepted other magic := by
          refine ⟨hmagicOther, hwholeOther, ?_⟩
          rw [harea]
          exact (CommandArea.clear_inside_iff hcommands le_rfl).mpr hclear
        rw [haccepted.read_eq, hother.read_eq, ofCommands, ofCommands, harea,
          CommandArea.count_inside,
          CommandArea.commands_inside hcommands hwhole le_rfl hclear]
      · have hclearOther :=
          (CommandArea.clear_inside_iff hcommands hk.le).mpr hclear
        have hruleOther :=
          (CommandArea.violation?_offset_inside hcommands hk hclear).trans
            hrule
        rw [← harea] at hclearOther hruleOther
        rw [read_of_violation hmagic hwhole hk hclear hrule,
          read_of_violation hmagicOther hwholeOther (by rwa [harea])
            hclearOther hruleOther, harea,
          CommandArea.commands_inside hcommands hwhole hk.le hclear]

/-- Reading an image looks at nothing but its walk: the image or the error and
the reports are the same for bytes that agree where the walk looks, in
particular for bytes that differ only at places which it ignores. -/
theorem read_looks_no_further (bytes : Bytes) :
    (∀ other : Bytes, other.length = bytes.length →
      AgreeAt (Inspects bytes) bytes other → read other = read bytes) ∧
    ∀ magic, Announces bytes magic →
      ∀ other : Bytes, other.length = bytes.length →
        (∀ place, other[place]? ≠ bytes[place]? →
          Ignores bytes magic place) →
        read other = read bytes := by
  refine ⟨fun other => read_of_agreeAt, ?_⟩
  intro magic hmagic other hlength hdiffer
  apply read_of_agreeAt hlength
  intro place hinspects
  by_contra hne
  exact (hdiffer place hne).not_inspects hmagic hinspects

/-- The interleaved image with another byte in its header and another one in
the body of a command that is skipped. -/
def overwritten : Bytes :=
  (interleaved.set 5 0xff).set 118 0xff

theorem ignores_of_overwritten {place : Nat}
    (hdiffer : overwritten[place]? ≠ interleaved[place]?) :
    Ignores interleaved ⟨.little, .bits32⟩ place := by
  by_cases hbody : place = 118
  · subst hbody
    refine .commands (by decide) (.body (k := 2) ?_ ?_ ?_ ?_ ?_)
    · decide +kernel
    · decide +kernel
    · intro width
      cases width <;> decide +kernel
    · decide +kernel
    · decide +kernel
  by_cases hheader : place = 5
  · subst hheader
    refine .header (by decide) ?_
    unfold Header.Inspects
    omega
  · rw [overwritten, List.getElem?_set_ne (Ne.symm hbody),
      List.getElem?_set_ne (Ne.symm hheader)] at hdiffer
    exact absurd rfl hdiffer

theorem read_looks_no_further_overwritten :
    overwritten ≠ interleaved ∧
      (∀ place, overwritten[place]? ≠ interleaved[place]? →
        Ignores interleaved ⟨.little, .bits32⟩ place) ∧
      AgreeAt (Inspects interleaved) interleaved overwritten ∧
        read overwritten = read interleaved := by
  have hmagic : Announces interleaved ⟨.little, .bits32⟩ :=
    by
    unfold Announces
    decide +kernel
  have hlength : overwritten.length = interleaved.length := by
    rw [overwritten, List.length_set, List.length_set]
  have hagree : AgreeAt (Inspects interleaved) interleaved overwritten := by
    intro place hinspects
    by_contra hdiffer
    exact (ignores_of_overwritten hdiffer).not_inspects hmagic hinspects
  exact ⟨by decide +kernel, fun _ => ignores_of_overwritten, hagree,
    (read_looks_no_further interleaved).1 overwritten hlength hagree⟩
end Image

end MachO
