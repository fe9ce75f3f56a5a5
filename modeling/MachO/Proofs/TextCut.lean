import MachO.FixedName
import Mathlib.Data.List.TakeWhile
import Mathlib.Tactic

/-!
# Texts cut by bytes

A fixed name keeps the first sixteen bytes of a text.  A cut at a byte may fall
inside a character, whose first bytes then decode to one replacement character,
and a zero byte ends the name wherever it stands.  Reading what was kept gives a
text that is kept as it is, although the replacement character takes three bytes
and may be cut itself.

That a torn character gives a single replacement character needs no look at its
bytes.  A decoder that has taken some of them has given out nothing, since the
whole character is all that it ever gives out for them; so it is waiting, and
the end of the bytes is the only thing that it can report.
-/

namespace MachO

namespace Text

variable {α : Type} [DecidableEq α] {stop : α} {list : List α}

theorem forall_ne_of_not_mem (hstop : stop ∉ list) :
    ∀ element ∈ list, decide (element ≠ stop) = true := by
  intro element hmem
  apply decide_eq_true
  rintro rfl
  exact hstop hmem

theorem takeWhile_ne_of_not_mem (hstop : stop ∉ list) :
    list.takeWhile (· ≠ stop) = list :=
  List.takeWhile_eq_self_iff.mpr (forall_ne_of_not_mem hstop)

theorem not_mem_takeWhile_ne : stop ∉ list.takeWhile (· ≠ stop) := by
  intro hmem
  have hne := List.mem_takeWhile_imp hmem
  simp at hne

end Text

namespace Text.Utf8

/-- How many bytes the characters take. -/
def size (chars : List Char) : Nat :=
  (chars.map Char.utf8Size).sum

@[simp] theorem size_nil : size [] = 0 := rfl

@[simp] theorem size_cons (char : Char) (chars : List Char) :
    size (char :: chars) = char.utf8Size + size chars := rfl

@[simp] theorem size_append (first second : List Char) :
    size (first ++ second) = size first + size second := by
  simp [size]

theorem size_le_of_front {front chars : List Char} (hfront : front <+: chars) :
    size front ≤ size chars := by
  obtain ⟨rest, rfl⟩ := hfront
  rw [size_append]
  exact Nat.le_add_right _ _

theorem length_flatMap_utf8EncodeChar (chars : List Char) :
    (chars.flatMap String.utf8EncodeChar).length = size chars := by
  simp [size, List.length_flatMap]

theorem length_encode (text : String) :
    (encode text).length = size text.toList :=
  length_flatMap_utf8EncodeChar text.toList

theorem size_toList (text : String) : size text.toList = text.utf8ByteSize := by
  rw [← length_encode, ← String.size_toByteArray, ← String.utf8Encode_toList,
    List.utf8Encode, List.size_toByteArray, encode]

/-! ## Zero bytes -/

theorem zero_mem_utf8EncodeChar_iff (char : Char) :
    0 ∈ String.utf8EncodeChar char ↔ char = '\x00' := by
  have hzero (number : Nat) : 0 = UInt8.ofNat number ↔ number % 256 = 0 := by
    rw [← UInt8.toNat_inj, UInt8.toNat_ofNat', eq_comm]
    rfl
  have hchar : char = '\x00' ↔ char.val.toNat = 0 := by
    rw [← Char.toNat_inj]
    rfl
  rw [hchar, String.utf8EncodeChar]
  split
  · simp only [List.mem_singleton, hzero]
    omega
  · -- The bytes of the longer forms have their top bit set.
    split
    · simp only [List.mem_cons, List.not_mem_nil, or_false, hzero]
      omega
    · split <;>
      · simp only [List.mem_cons, List.not_mem_nil, or_false, hzero]
        omega

theorem zero_mem_flatMap_iff (chars : List Char) :
    0 ∈ chars.flatMap String.utf8EncodeChar ↔ '\x00' ∈ chars := by
  simp [List.mem_flatMap, zero_mem_utf8EncodeChar_iff]

/-- The bytes end before their first zero byte where the characters end before
their first zero. -/
theorem takeWhile_flatMap (chars : List Char) :
    (chars.flatMap String.utf8EncodeChar).takeWhile (· ≠ 0) =
      (chars.takeWhile (· ≠ '\x00')).flatMap String.utf8EncodeChar := by
  induction chars with
  | nil => rfl
  | cons char chars ih =>
      by_cases hchar : char = '\x00'
      · subst hchar
        rfl
      · have hbytes := forall_ne_of_not_mem
          (mt (zero_mem_utf8EncodeChar_iff char).mp hchar)
        rw [List.flatMap_cons, List.takeWhile_append_of_pos hbytes, ih,
          List.takeWhile_cons_of_pos (by simpa using hchar), List.flatMap_cons]

/-! ## Torn characters -/

theorem step_progress (state : Option Unfinished) (byte : UInt8) :
    (step state byte).1 ≠ [] ∨ (step state byte).2 ≠ none := by
  have hbegin : (begin byte).1 ≠ [] ∨ (begin byte).2 ≠ none := by
    unfold begin
    cases lead byte <;> simp
  cases state with
  | none => exact hbegin
  | some char =>
      simp only [step, Unfinished.continue]
      split
      · split <;> simp
      · exact Or.inl (List.cons_ne_nil _ _)

/-- A decoder that waits or is given bytes gives out something in the end. -/
theorem decodeFrom_ne_nil {state : Option Unfinished} {bytes : Bytes}
    (hsome : state ≠ none ∨ bytes ≠ []) : decodeFrom state bytes ≠ [] := by
  induction bytes generalizing state with
  | nil =>
      cases state with
      | none => simp at hsome
      | some char => exact List.cons_ne_nil _ _
  | cons byte bytes ih =>
      rw [decodeFrom]
      intro hnil
      obtain ⟨hgiven, hrest⟩ := List.append_eq_nil_iff.mp hnil
      rcases step_progress state byte with hout | hnext
      · exact hout hgiven
      · exact ih (Or.inl hnext) hrest

theorem exists_decodeFrom_append (state : Option Unfinished) (bytes : Bytes) :
    ∃ chars next, ∀ rest,
      decodeFrom state (bytes ++ rest) = chars ++ decodeFrom next rest := by
  induction bytes generalizing state with
  | nil => exact ⟨[], state, fun _ => rfl⟩
  | cons byte bytes ih =>
      obtain ⟨chars, next, hrest⟩ := ih (step state byte).2
      refine ⟨(step state byte).1 ++ chars, next, ?_⟩
      intro rest
      rw [List.cons_append, decodeFrom, hrest, List.append_assoc]

/-- A decoder that has taken some bytes of a character has given out nothing. -/
theorem exists_decodeFrom_part (char : Char) {count : Nat}
    (hlt : count < char.utf8Size) :
    ∃ next, ∀ rest,
      decodeFrom none ((String.utf8EncodeChar char).take count ++ rest) =
        decodeFrom next rest := by
  obtain ⟨chars, next, happend⟩ :=
    exists_decodeFrom_append none ((String.utf8EncodeChar char).take count)
  -- All of the bytes give the one character, and those that are still to come
  -- give something: so nothing has been given before them.
  have hwhole := happend ((String.utf8EncodeChar char).drop count)
  have hchar := decodeFrom_utf8EncodeChar char []
  rw [List.append_nil] at hchar
  rw [List.take_append_drop, hchar] at hwhole
  have hmore : decodeFrom next ((String.utf8EncodeChar char).drop count) ≠
      [] := by
    apply decodeFrom_ne_nil
    right
    intro hdrop
    have hle := List.drop_eq_nil_iff.mp hdrop
    rw [String.length_utf8EncodeChar] at hle
    omega
  rcases List.append_eq_singleton_iff.mp hwhole.symm with
    ⟨hnone, _⟩ | ⟨_, hrest⟩
  · refine ⟨next, ?_⟩
    intro rest
    rw [happend, hnone, List.nil_append]
  · exact absurd hrest hmore

theorem decodeFrom_torn (char : Char) {count : Nat} (hpos : 0 < count)
    (hlt : count < char.utf8Size) :
    decodeFrom none ((String.utf8EncodeChar char).take count) =
      [replacement] := by
  obtain ⟨next, hpart⟩ := exists_decodeFrom_part char hlt
  have hend := hpart []
  rw [List.append_nil] at hend
  have hbytes : (String.utf8EncodeChar char).take count ≠ [] := by
    apply List.ne_nil_of_length_pos
    rw [List.length_take, String.length_utf8EncodeChar]
    omega
  have hsome : decodeFrom next [] ≠ [] := by
    rw [← hend]
    exact decodeFrom_ne_nil (Or.inr hbytes)
  rw [hend]
  cases next with
  | some unfinished => rfl
  | none => exact absurd rfl hsome

/-- Bytes that end inside a character decode to the characters before it and a
replacement character. -/
theorem decodeFrom_take {front rest : List Char} {char : Char} {limit : Nat}
    (hfits : size front ≤ limit) (hover : limit < size front + char.utf8Size) :
    decodeFrom none
        (((front ++ char :: rest).flatMap String.utf8EncodeChar).take limit) =
      front ++ if size front < limit then [replacement] else [] := by
  have hlength := length_flatMap_utf8EncodeChar front
  have hchar := String.length_utf8EncodeChar char
  have htake : ((front ++ char :: rest).flatMap String.utf8EncodeChar).take
        limit =
      front.flatMap String.utf8EncodeChar ++
        (String.utf8EncodeChar char).take (limit - size front) := by
    rw [List.flatMap_append, List.flatMap_cons, List.take_append, hlength,
      List.take_of_length_le (by omega),
      List.take_append_of_le_length (by omega)]
  rw [htake, decodeFrom_encode]
  congr 1
  split
  · exact decodeFrom_torn char (by omega) (by omega)
  · rw [show limit - size front = 0 by omega]
    rfl

/-! ## Longest fronts -/

/-- The longest front of the characters that takes at most so many bytes. -/
structure IsLongestFront (limit : Nat) (front chars : List Char) : Prop where
  isFront : front <+: chars
  fits : size front ≤ limit
  longest : ∀ other, other <+: chars → size other ≤ limit → other <+: front

/-- One of the characters begins before the limit and ends behind it. -/
def Straddled (limit : Nat) (chars : List Char) : Prop :=
  ∃ before char after, chars = before ++ char :: after ∧
    size before < limit ∧ limit < size before + char.utf8Size

theorem exists_cut {limit : Nat} {chars : List Char}
    (hover : limit < size chars) :
    ∃ front char rest, chars = front ++ char :: rest ∧
      size front ≤ limit ∧ limit < size front + char.utf8Size := by
  induction chars generalizing limit with
  | nil => simp at hover
  | cons char chars ih =>
      by_cases hchar : limit < char.utf8Size
      · exact ⟨[], char, chars, rfl, by simp, by simpa using hchar⟩
      · rw [size_cons] at hover
        have hrest : limit - char.utf8Size < size chars := by omega
        obtain ⟨front, next, rest, rfl, hfits, hnext⟩ := ih hrest
        refine ⟨char :: front, next, rest, rfl, ?_, ?_⟩ <;>
          rw [size_cons] <;> omega

theorem front_or_beyond {front rest other : List Char} {char : Char}
    (hother : other <+: front ++ char :: rest) :
    other <+: front ∨ size front + char.utf8Size ≤ size other := by
  have hnext : front ++ [char] <+: front ++ char :: rest :=
    ⟨rest, by simp⟩
  rcases Nat.lt_or_ge front.length other.length with hlonger | hshorter
  · right
    have hbeyond : front ++ [char] <+: other := by
      apply List.prefix_of_prefix_length_le hnext hother
      simpa using hlonger
    simpa using size_le_of_front hbeyond
  · left
    exact List.prefix_of_prefix_length_le hother (List.prefix_append _ _)
      hshorter

theorem isLongestFront_of_cut {front rest : List Char} {char : Char}
    {limit : Nat} (hfits : size front ≤ limit)
    (hover : limit < size front + char.utf8Size) :
    IsLongestFront limit front (front ++ char :: rest) where
  isFront := List.prefix_append _ _
  fits := hfits
  longest := by
    intro other hother hsize
    rcases front_or_beyond hother with hfront | hbeyond
    · exact hfront
    · omega

theorem straddled_iff_of_cut {front rest : List Char} {char : Char}
    {limit : Nat} (hfits : size front ≤ limit)
    (hover : limit < size front + char.utf8Size) :
    Straddled limit (front ++ char :: rest) ↔ size front < limit := by
  constructor
  · rintro ⟨before, other, after, heq, hbefore, hother⟩
    have hfront : front <+: before ++ other :: after := by
      rw [← heq]
      exact List.prefix_append _ _
    rcases front_or_beyond hfront with hinside | hbeyond
    · exact (size_le_of_front hinside).trans_lt hbefore
    · omega
  · intro hlt
    exact ⟨front, char, rest, rfl, hlt, hover⟩

end Text.Utf8

namespace FixedName

open Text Text.Utf8

section

variable {name : FixedName}

theorem length_content_le : name.content.length ≤ 16 := by
  rw [← name.length_raw]
  exact (List.takeWhile_prefix _).length_le

theorem zero_not_mem_content : 0 ∉ name.content :=
  not_mem_takeWhile_ne

theorem text_of_content {text : String}
    (hcontent : name.content = encode text) : name.text = text := by
  rw [FixedName.text, hcontent, decode_encode]

end

theorem content_ofText (text : String) :
    (ofText text).content = ((encode text).take 16).takeWhile (· ≠ 0) := by
  have hpadding : (List.replicate (16 - ((encode text).take 16).length)
      (0 : UInt8)).takeWhile (· ≠ 0) = [] := by
    rw [List.takeWhile_replicate]
    rfl
  simp only [content, ofText, ofBytes, width, List.rightpad]
  rw [List.takeWhile_append, hpadding, List.append_nil]
  split
  · next hwhole =>
    exact ((List.takeWhile_prefix _).eq_of_length hwhole).symm
  · rfl

theorem content_of_ended {text : String}
    (hended : 0 ∈ (encode text).take 16 ∨ size text.toList ≤ 16) :
    (ofText text).content =
      (text.toList.takeWhile (· ≠ '\x00')).flatMap String.utf8EncodeChar := by
  rw [content_ofText, ← takeWhile_flatMap, ← encode]
  rcases hended with hzero | hshort
  · have hstops : (((encode text).take 16).takeWhile (· ≠ 0)).length ≠
        ((encode text).take 16).length := by
      intro hlength
      have hall := (List.takeWhile_prefix _).eq_of_length hlength
      rw [← hall] at hzero
      exact not_mem_takeWhile_ne hzero
    conv_rhs => rw [← List.take_append_drop 16 (encode text)]
    rw [List.takeWhile_append, if_neg hstops]
  · rw [List.take_of_length_le (by rwa [length_encode])]

theorem content_of_cut {text : String} (hzero : 0 ∉ (encode text).take 16) :
    (ofText text).content = (encode text).take 16 := by
  rw [content_ofText, takeWhile_ne_of_not_mem hzero]

theorem content_eq_encode_iff (text : String) :
    (ofText text).content = encode text ↔
      text.utf8ByteSize ≤ 16 ∧ '\x00' ∉ text.toList := by
  rw [← size_toList]
  constructor
  · intro hcontent
    rw [← zero_mem_flatMap_iff, ← encode, ← length_encode, ← hcontent]
    exact ⟨length_content_le, zero_not_mem_content⟩
  · rintro ⟨hsize, hzero⟩
    rw [content_of_ended (Or.inr hsize), takeWhile_ne_of_not_mem hzero, encode]

theorem text_of_ended {text : String}
    (hended : 0 ∈ (encode text).take 16 ∨ size text.toList ≤ 16) :
    (ofText text).text =
      String.ofList (text.toList.takeWhile (· ≠ '\x00')) := by
  apply text_of_content
  rw [content_of_ended hended, encode, String.toList_ofList]

theorem text_ofText_ofList {chars : List Char} (hsize : size chars ≤ 16)
    (hzero : '\x00' ∉ chars) :
    (ofText (String.ofList chars)).text = String.ofList chars := by
  apply text_of_content
  rw [content_eq_encode_iff, ← size_toList, String.toList_ofList]
  exact ⟨hsize, hzero⟩

/-- A text that goes on past the field is cut to the characters that fit, with a
replacement character for one that is torn. -/
theorem text_of_cut {text : String} {front rest : List Char} {char : Char}
    (hzero : 0 ∉ (encode text).take 16)
    (htext : text.toList = front ++ char :: rest) (hfits : size front ≤ 16)
    (hover : 16 < size front + char.utf8Size) :
    (ofText text).text = String.ofList
      (front ++ if size front < 16 then [replacement] else []) := by
  rw [FixedName.text, content_of_cut hzero, decode, encode, htext,
    decodeFrom_take hfits hover]

theorem not_mem_of_kept {text : String} {front rest : List Char}
    (hzero : 0 ∉ (encode text).take 16) (htext : text.toList = front ++ rest)
    (hfits : size front ≤ 16) : '\x00' ∉ front := by
  rw [← zero_mem_flatMap_iff]
  intro hmem
  apply hzero
  rw [encode, htext, List.flatMap_append,
    List.take_append, length_flatMap_utf8EncodeChar,
    List.take_of_length_le (by rwa [length_flatMap_utf8EncodeChar])]
  exact List.mem_append_left _ hmem

/-- A replacement character at the end may be torn in its turn.  It is then
replaced by itself. -/
theorem text_ofText_replaced {front : List Char} (hfits : size front < 16)
    (hfront : '\x00' ∉ front) :
    (ofText (String.ofList (front ++ [replacement]))).text =
      String.ofList (front ++ [replacement]) := by
  have hreplaced : '\x00' ∉ front ++ [replacement] := by
    simp [hfront, replacement]
  by_cases hwhole : size (front ++ [replacement]) ≤ 16
  · exact text_ofText_ofList hwhole hreplaced
  · have hzero : 0 ∉
        (encode (String.ofList (front ++ [replacement]))).take 16 := by
      intro hmem
      apply hreplaced
      rw [← zero_mem_flatMap_iff]
      rw [encode, String.toList_ofList] at hmem
      exact List.mem_of_mem_take hmem
    have hover : 16 < size front + replacement.utf8Size := by
      simpa using hwhole
    rw [text_of_cut hzero (String.toList_ofList) hfits.le hover, if_pos hfits]

/-- What a field shows is kept and shown again. -/
theorem text_ofText_text (text : String) :
    (ofText (ofText text).text).text = (ofText text).text := by
  by_cases hended : 0 ∈ (encode text).take 16 ∨ size text.toList ≤ 16
  · have hsize : (ofText text).content.length ≤ 16 := length_content_le
    rw [content_of_ended hended, length_flatMap_utf8EncodeChar] at hsize
    rw [text_of_ended hended]
    exact text_ofText_ofList hsize not_mem_takeWhile_ne
  · obtain ⟨hzero, hlong⟩ := not_or.mp hended
    obtain ⟨front, char, rest, htext, hfits, hover⟩ :=
      exists_cut (Nat.not_le.mp hlong)
    have hfront := not_mem_of_kept hzero htext hfits
    rw [text_of_cut hzero htext hfits hover]
    by_cases htorn : size front < 16
    · rw [if_pos htorn]
      exact text_ofText_replaced htorn hfront
    · rw [if_neg htorn, List.append_nil]
      exact text_ofText_ofList hfits hfront

/-- What a field keeps of a text, byte by byte and as it is shown. -/
theorem ofText_cuts_safely (text : String) :
    ((ofText text).content = encode text ↔
        text.utf8ByteSize ≤ 16 ∧ '\x00' ∉ text.toList) ∧
      (0 ∈ (encode text).take 16 ∨ text.utf8ByteSize ≤ 16 →
        (ofText text).text =
          String.ofList (text.toList.takeWhile (· ≠ '\x00'))) ∧
      (¬ (0 ∈ (encode text).take 16 ∨ text.utf8ByteSize ≤ 16) →
        ∃ front, IsLongestFront 16 front text.toList ∧
          (Straddled 16 text.toList →
            (ofText text).text = String.ofList (front ++ [replacement])) ∧
          (¬ Straddled 16 text.toList →
            (ofText text).text = String.ofList front)) ∧
      (ofText (ofText text).text).text = (ofText text).text := by
  refine ⟨content_eq_encode_iff text, ?_, ?_, text_ofText_text text⟩
  · intro hended
    rw [← size_toList] at hended
    exact text_of_ended hended
  · intro hgoes
    rw [← size_toList] at hgoes
    obtain ⟨hzero, hlong⟩ := not_or.mp hgoes
    obtain ⟨front, char, rest, htext, hfits, hover⟩ :=
      exists_cut (Nat.not_le.mp hlong)
    have hcut := text_of_cut hzero htext hfits hover
    rw [htext, straddled_iff_of_cut hfits hover]
    refine ⟨front, isLongestFront_of_cut hfits hover, ?_, ?_⟩
    · intro htorn
      rw [hcut, if_pos htorn]
    · intro hwhole
      rw [hcut, if_neg hwhole, List.append_nil]

/-- Seven letters of two bytes and one of three, of which a field keeps two. -/
def torn : String := "ααααααα€"

theorem ofText_cuts_safely_torn :
    (∃ front, IsLongestFront 16 front torn.toList ∧
        (ofText torn).text = String.ofList (front ++ [replacement])) ∧
      (∃ front, IsLongestFront 16 front "__objc_classlist_".toList ∧
        (ofText "__objc_classlist_").text = String.ofList front) ∧
      (ofText "__text\x00 of the program").text = "__text" := by
  have htorn : Straddled 16 torn.toList :=
    ⟨"ααααααα".toList, '€', [], by decide +kernel⟩
  have hexact : ¬ Straddled 16 "__objc_classlist_".toList := by
    have htext : "__objc_classlist_".toList =
        "__objc_classlist".toList ++ '_' :: [] := by
      decide +kernel
    rw [htext, straddled_iff_of_cut (by decide +kernel) (by decide +kernel)]
    decide +kernel
  obtain ⟨_, _, hcutTorn, _⟩ := ofText_cuts_safely torn
  obtain ⟨_, _, hcutExact, _⟩ := ofText_cuts_safely "__objc_classlist_"
  obtain ⟨_, hended, _⟩ := ofText_cuts_safely "__text\x00 of the program"
  obtain ⟨front, hfront, hreplaced, _⟩ := hcutTorn (by decide +kernel)
  obtain ⟨whole, hwhole, _, hkept⟩ := hcutExact (by decide +kernel)
  refine ⟨⟨front, hfront, hreplaced htorn⟩, ⟨whole, hwhole, hkept hexact⟩, ?_⟩
  rw [hended (by decide +kernel)]
  decide +kernel

end FixedName

end MachO
