import MachO.Proofs.CommandArea

/-!
# The grammar of images

An image announces a byte order and a form by its first word, has its header
and the area of its load commands whole, and breaks no rule in any of the
commands that its header counts.  Each way to leave the grammar has an error
of its own; where there are several, the one that comes first in the image is
reported.

Reading an image is compared with this grammar, which is stated on the offsets
of the commands and without the walk.
-/

namespace MachO

namespace Magic

/-- The four magic words, read with the least significant byte first. -/
def words : List (UInt32 × Magic) := [
  (0xfeedface, ⟨.little, .bits32⟩), (0xcefaedfe, ⟨.big, .bits32⟩),
  (0xfeedfacf, ⟨.little, .bits64⟩), (0xcffaedfe, ⟨.big, .bits64⟩)]

theorem detect_of_mem {word : UInt32} {magic : Magic}
    (hmem : (word, magic) ∈ words) :
    detect word = .ok magic := by
  simp only [words, List.mem_cons, Prod.mk.injEq, List.not_mem_nil,
    or_false] at hmem
  rcases hmem with ⟨rfl, rfl⟩ | ⟨rfl, rfl⟩ | ⟨rfl, rfl⟩ | ⟨rfl, rfl⟩ <;> rfl

theorem detect_of_forall_not_mem {word : UInt32}
    (hnone : ∀ magic, (word, magic) ∉ words) :
    detect word = .error (.badMagic word) := by
  have hlittle32 : word ≠ 0xfeedface := fun h =>
    hnone ⟨.little, .bits32⟩ (by simp [words, h])
  have hbig32 : word ≠ 0xcefaedfe := fun h =>
    hnone ⟨.big, .bits32⟩ (by simp [words, h])
  have hlittle64 : word ≠ 0xfeedfacf := fun h =>
    hnone ⟨.little, .bits64⟩ (by simp [words, h])
  have hbig64 : word ≠ 0xcffaedfe := fun h =>
    hnone ⟨.big, .bits64⟩ (by simp [words, h])
  simp only [detect, ofWord?, if_neg hlittle32, if_neg hbig32,
    if_neg hlittle64, if_neg hbig64]

/-- The header tells the byte order that its magic word was detected with: the
word read the other way round is a magic word of the same form. -/
theorem headerOrder_of_mem {stored : Bytes} {magic : Magic}
    (hlength : stored.length = 4)
    (hmem : (ByteOrder.little.word32 stored, magic) ∈ words) :
    headerOrder magic.width (ByteOrder.big.word32 stored) =
      .ok magic.order := by
  have hback := ByteOrder.little.ofWord32_word32 hlength
  simp only [words, List.mem_cons, Prod.mk.injEq, List.not_mem_nil,
    or_false] at hmem
  rcases hmem with ⟨hword, rfl⟩ | ⟨hword, rfl⟩ | ⟨hword, rfl⟩ | ⟨hword, rfl⟩
  all_goals
    rw [← hback, hword]
    rfl

end Magic

/-- The bytes announce an order and a form by their first word. -/
def Announces (bytes : Bytes) (magic : Magic) : Prop :=
  4 ≤ bytes.length ∧
    (ByteOrder.little.word32At bytes 0, magic) ∈ Magic.words

/-- The area behind the header, with the number of commands and of bytes that
the header says. -/
def CommandArea.ofImage (bytes : Bytes) (magic : Magic) : CommandArea where
  bytes := bytes
  order := magic.order
  first := magic.width.imageHeaderSize
  limit := magic.width.imageHeaderSize +
    (magic.order.word32At bytes 20).toNat
  count := (magic.order.word32At bytes 16).toNat

theorem Header.read_of_announces {bytes : Bytes} {magic : Magic}
    (hmagic : Announces bytes magic) :
    Header.read bytes = Header.readAs magic.width bytes := by
  have hlong : ¬ bytes.length < 4 := Nat.not_lt.mpr hmagic.1
  rw [Header.read, if_neg hlong, Magic.detect_of_mem hmagic.2]

theorem Header.readAs_of_announces {bytes : Bytes} {magic : Magic}
    (hmagic : Announces bytes magic)
    (hheader : magic.width.imageHeaderSize ≤ bytes.length) :
    Header.readAs magic.width bytes =
      if bytes.length < (CommandArea.ofImage bytes magic).limit then
        .error (.malformed .commandTable)
      else
        .ok ⟨magic, magic.order.word32At bytes 16,
          magic.order.word32At bytes 20⟩ := by
  have hlength : ((bytes.drop 0).take 4).length = 4 := by
    rw [List.drop_zero, List.length_take]
    exact min_eq_left hmagic.1
  have horder : Magic.headerOrder magic.width
      (ByteOrder.big.word32At bytes 0) = .ok magic.order :=
    Magic.headerOrder_of_mem hlength hmagic.2
  rw [Header.readAs, if_neg (by omega), horder]
  rfl

/-- A header that was read announces the order and the form of its image, and
the area behind it is whole. -/
theorem Header.exists_announces_of_read {bytes : Bytes} {header : Header}
    (hread : Header.read bytes = .ok header) :
    ∃ magic, Announces bytes magic ∧
      (CommandArea.ofImage bytes magic).limit ≤ bytes.length := by
  by_cases hmagic : ∃ magic, Announces bytes magic
  · obtain ⟨magic, hmagic⟩ := hmagic
    refine ⟨magic, hmagic, ?_⟩
    rw [read_of_announces hmagic] at hread
    by_cases hshort : bytes.length < magic.width.imageHeaderSize
    · rw [readAs, if_pos hshort] at hread
      cases hread
    · rw [readAs_of_announces hmagic (Nat.not_lt.mp hshort)] at hread
      split at hread
      · cases hread
      · next hwhole => exact Nat.not_lt.mp hwhole
  · unfold Header.read at hread
    split at hread
    · cases hread
    · next hlength =>
      have hdetect := Magic.detect_of_forall_not_mem
        fun magic hmem => hmagic ⟨magic, Nat.not_lt.mp hlength, hmem⟩
      rw [hdetect] at hread
      cases hread

theorem CommandArea.limit_ofImage_lt (bytes : Bytes) (magic : Magic) :
    (CommandArea.ofImage bytes magic).limit < addressableRange := by
  have hheader : magic.width.imageHeaderSize ≤ 32 := by
    cases magic.width <;> simp [Width.imageHeaderSize]
  have hsize : (magic.order.word32At bytes 20).toNat < 2 ^ 32 :=
    UInt32.toNat_lt _
  simp only [CommandArea.ofImage, addressableRange]
  omega

theorem Header.walk_eq_run (bytes : Bytes) (magic : Magic) :
    Header.walk ⟨magic, magic.order.word32At bytes 16,
        magic.order.word32At bytes 20⟩ bytes =
      Walk.run magic.order (CommandArea.ofImage bytes magic).count
        (CommandArea.ofImage bytes magic).first
        ((CommandArea.ofImage bytes magic).window
          (CommandArea.ofImage bytes magic).first) := by
  rw [Header.walk, Header.area, CommandArea.window]
  simp only [CommandArea.ofImage, Nat.add_sub_cancel_left]
  rfl

namespace Image

structure Accepted (bytes : Bytes) (magic : Magic) : Prop where
  announced : Announces bytes magic
  whole : (CommandArea.ofImage bytes magic).limit ≤ bytes.length
  clear : (CommandArea.ofImage bytes magic).Clear
    (CommandArea.ofImage bytes magic).count

/-- The bytes leave the grammar, and where they do so first. -/
inductive Refused (bytes : Bytes) : Error → Prop
  | noMagic (hshort : bytes.length < 4) : Refused bytes (.shortRead 0 4)
  | unknownMagic (hlength : 4 ≤ bytes.length)
      (hnone : ∀ magic, ¬ Announces bytes magic) :
      Refused bytes (.badMagic (ByteOrder.little.word32At bytes 0))
  | header {magic : Magic} (hmagic : Announces bytes magic)
      (hshort : bytes.length < magic.width.imageHeaderSize) :
      Refused bytes (.malformed .header)
  | commandTable {magic : Magic} (hmagic : Announces bytes magic)
      (hheader : magic.width.imageHeaderSize ≤ bytes.length)
      (hshort : bytes.length < (CommandArea.ofImage bytes magic).limit) :
      Refused bytes (.malformed .commandTable)
  | command {magic : Magic} {k : Nat} {rule : Malformation}
      (hmagic : Announces bytes magic)
      (hwhole : (CommandArea.ofImage bytes magic).limit ≤ bytes.length)
      (hk : k < (CommandArea.ofImage bytes magic).count)
      (hclear : (CommandArea.ofImage bytes magic).Clear k)
      (hviolation : (CommandArea.ofImage bytes magic).violation?
        ((CommandArea.ofImage bytes magic).offset k) = some rule) :
      Refused bytes (.malformed rule)

theorem accepted_or_refused (bytes : Bytes) :
    (∃ magic, Accepted bytes magic) ∨ ∃ failure, Refused bytes failure := by
  by_cases hshort : bytes.length < 4
  · exact Or.inr ⟨_, .noMagic hshort⟩
  by_cases hmagic : ∃ magic, Announces bytes magic
  · obtain ⟨magic, hmagic⟩ := hmagic
    by_cases hheader : bytes.length < magic.width.imageHeaderSize
    · exact Or.inr ⟨_, .header hmagic hheader⟩
    by_cases htable :
        bytes.length < (CommandArea.ofImage bytes magic).limit
    · exact Or.inr ⟨_, .commandTable hmagic (by omega) htable⟩
    have hwhole : (CommandArea.ofImage bytes magic).limit ≤ bytes.length := by
      omega
    rcases CommandArea.clear_or_first_violation
        (CommandArea.ofImage bytes magic).count with
      hclear | ⟨k, hk, hclear, rule, hrule⟩
    · exact Or.inl ⟨magic, hmagic, hwhole, hclear⟩
    · exact Or.inr ⟨_, .command hmagic hwhole hk hclear hrule⟩
  · exact Or.inr
      ⟨_, .unknownMagic (by omega) fun magic h => hmagic ⟨magic, h⟩⟩

variable {bytes : Bytes} {magic : Magic}

theorem read_eq_of_whole (hmagic : Announces bytes magic)
    (hwhole : (CommandArea.ofImage bytes magic).limit ≤ bytes.length) :
    Header.read bytes = .ok ⟨magic, magic.order.word32At bytes 16,
      magic.order.word32At bytes 20⟩ := by
  have hheader : magic.width.imageHeaderSize ≤ bytes.length := by
    simp only [CommandArea.ofImage] at hwhole
    omega
  rw [Header.read_of_announces hmagic,
    Header.readAs_of_announces hmagic hheader, if_neg (by omega)]

/-- What is read from an image: the segments among its commands. -/
def ofCommands (bytes : Bytes) (magic : Magic) : Image where
  order := magic.order
  width := magic.width
  segments := ((CommandArea.ofImage bytes magic).commands
    (CommandArea.ofImage bytes magic).count).filterMap LoadCommand.segment?

/-- All commands are reported, and then the image. -/
theorem Accepted.read_eq (haccepted : Accepted bytes magic) :
    read bytes =
      ⟨((CommandArea.ofImage bytes magic).commands
          (CommandArea.ofImage bytes magic).count).map LoadCommand.event ++
        [.image magic.order magic.width
          (ofCommands bytes magic).segments.length],
        .ok (ofCommands bytes magic)⟩ := by
  have hwalk := CommandArea.run_eq_commands haccepted.whole
    (CommandArea.limit_ofImage_lt bytes magic) haccepted.clear
  have hheader := read_eq_of_whole haccepted.announced haccepted.whole
  simp only [read, hheader, Header.walk_eq_run]
  rw [show magic.order = (CommandArea.ofImage bytes magic).order from rfl,
    hwalk]
  rfl

/-- The commands before the first violation are reported. -/
theorem read_of_violation {k : Nat} {rule : Malformation}
    (hmagic : Announces bytes magic)
    (hwhole : (CommandArea.ofImage bytes magic).limit ≤ bytes.length)
    (hk : k < (CommandArea.ofImage bytes magic).count)
    (hclear : (CommandArea.ofImage bytes magic).Clear k)
    (hviolation : (CommandArea.ofImage bytes magic).violation?
      ((CommandArea.ofImage bytes magic).offset k) = some rule) :
    read bytes =
      ⟨((CommandArea.ofImage bytes magic).commands k).map LoadCommand.event,
        .error (.malformed rule)⟩ := by
  have hwalk := CommandArea.run_eq_failure hwhole
    (CommandArea.limit_ofImage_lt bytes magic) hk hclear hviolation
  simp only [read, read_eq_of_whole hmagic hwhole, Header.walk_eq_run]
  rw [show magic.order = (CommandArea.ofImage bytes magic).order from rfl,
    hwalk]

/-- Where no order and form are announced, or the area of the commands is not
whole, nothing is reported. -/
theorem exists_read_of_unannounced
    (hnone : ¬ ∃ magic, Announces bytes magic ∧
      (CommandArea.ofImage bytes magic).limit ≤ bytes.length) :
    ∃ failure, read bytes = ⟨[], .error failure⟩ := by
  cases hread : Header.read bytes with
  | error failure => exact ⟨failure, by simp only [read, hread]⟩
  | ok header => exact absurd (Header.exists_announces_of_read hread) hnone

theorem Accepted.parse_eq (haccepted : Accepted bytes magic) :
    parse bytes = .ok (ofCommands bytes magic) := by
  rw [parse, haccepted.read_eq]

theorem Refused.parse_eq {failure : Error} (hrefused : Refused bytes failure) :
    parse bytes = .error failure := by
  cases hrefused with
  | noMagic hshort => simp only [parse, read, Header.read, if_pos hshort]
  | unknownMagic hlength hnone =>
      have hdetect := Magic.detect_of_forall_not_mem
        fun magic hmem => hnone magic ⟨hlength, hmem⟩
      simp only [parse, read, Header.read, hdetect]
      rw [if_neg (by omega)]
  | header hmagic hshort =>
      simp only [parse, read, Header.read_of_announces hmagic, Header.readAs,
        if_pos hshort]
  | commandTable hmagic hheader hshort =>
      simp only [parse, read, Header.read_of_announces hmagic,
        Header.readAs_of_announces hmagic hheader, if_pos hshort]
  | command hmagic hwhole hk hclear hviolation =>
      rw [parse, read_of_violation hmagic hwhole hk hclear hviolation]

theorem exists_accepted_of_parse {image : Image}
    (hparse : parse bytes = .ok image) :
    ∃ magic, Accepted bytes magic ∧ image = ofCommands bytes magic := by
  rcases accepted_or_refused bytes with ⟨magic, haccepted⟩ | ⟨other, hother⟩
  · rw [haccepted.parse_eq] at hparse
    cases hparse
    exact ⟨magic, haccepted, rfl⟩
  · rw [hother.parse_eq] at hparse
    cases hparse

/-- A segment of an image starts inside the area of the commands, and so much
of the area as the command says belongs to it. -/
theorem Accepted.bounds_of_mem (haccepted : Accepted bytes magic)
    {segment : Segment}
    (hmem : segment ∈ (ofCommands bytes magic).segments) :
    segment.headerSize ≤
        (magic.order.word32At bytes (segment.position + 4)).toNat ∧
      segment.position +
          (magic.order.word32At bytes (segment.position + 4)).toNat ≤
        (CommandArea.ofImage bytes magic).limit := by
  simp only [ofCommands, CommandArea.commands, List.filterMap_map,
    List.mem_filterMap, List.mem_range, Function.comp_apply] at hmem
  obtain ⟨k, hk, hsegment⟩ := hmem
  have hnone := haccepted.clear k hk
  obtain ⟨hwidth, hposition⟩ := CommandArea.place_of_segmentAt? hsegment
  rw [hposition]
  exact ⟨CommandArea.segmentHeaderSize_le_of_violation?_eq_none hnone hwidth,
    (CommandArea.bounds_of_violation?_eq_none hnone).2⟩

theorem refused_of_parse {failure : Error}
    (hparse : parse bytes = .error failure) :
    Refused bytes failure := by
  rcases accepted_or_refused bytes with
    ⟨magic, haccepted⟩ | ⟨other, hother⟩
  · rw [haccepted.parse_eq] at hparse
    cases hparse
  · rw [hother.parse_eq] at hparse
    cases hparse
    exact hother

theorem Refused.not_unsupported {failure : Error}
    (hrefused : Refused bytes failure) :
    failure ≠ .malformed .unsupportedHeader ∧
      failure ≠ .malformed .unsupportedOrder := by
  cases hrefused with
  | command hmagic hwhole hk hclear hviolation =>
      rcases CommandArea.rule_of_violation? hviolation with
        rfl | rfl | rfl <;> simp
  | _ => simp

/-- Reading fails exactly with the first violation of the grammar, and
succeeds exactly where there is none.  A header whose form was detected is
never found unsupported. -/
theorem parse_reports_first_violation (bytes : Bytes) :
    (∀ failure, parse bytes = .error failure ↔ Refused bytes failure) ∧
      ((∃ image, parse bytes = .ok image) ↔
        ∃ magic, Accepted bytes magic) ∧
      parse bytes ≠ .error (.malformed .unsupportedHeader) ∧
      parse bytes ≠ .error (.malformed .unsupportedOrder) := by
  refine ⟨?_, ?_, ?_, ?_⟩
  · intro failure
    exact ⟨refused_of_parse, Refused.parse_eq⟩
  · constructor
    · rintro ⟨image, hparse⟩
      obtain ⟨magic, haccepted, _⟩ := exists_accepted_of_parse hparse
      exact ⟨magic, haccepted⟩
    · rintro ⟨magic, haccepted⟩
      exact ⟨ofCommands bytes magic, haccepted.parse_eq⟩
  · intro hparse
    exact (refused_of_parse hparse).not_unsupported.1 rfl
  · intro hparse
    exact (refused_of_parse hparse).not_unsupported.2 rfl

end Image

end MachO
