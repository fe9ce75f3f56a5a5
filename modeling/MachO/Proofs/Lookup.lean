import MachO.CommandLine.Report
import MachO.Proofs.TextCut

/-!
# Displayed names and look-up

A section is displayed by its two names with a comma between them, and looked up
by two texts.  A displayed name is cut at its first comma, wherever that came
from; what the two parts find is then displayed by the same name.

The way back from a section to itself has two gaps.  A comma in the name of the
segment moves the cut, and bytes that are no text are displayed as replacement
characters, which are looked up as the bytes of their own.  The two gaps are the
only ones, and a section that is not found itself has an equal one before it.
-/

namespace MachO

theorem Text.Utf8.encode_decode_iff (bytes : Bytes) :
    encode (decode bytes) = bytes ↔ bytes.toByteArray.IsValidUTF8 := by
  constructor
  · intro hbytes
    apply ByteArray.IsValidUTF8.intro (decode bytes).toList
    rw [List.utf8Encode, List.toByteArray_inj]
    exact hbytes.symm
  · rintro ⟨chars, hchars⟩
    rw [List.utf8Encode, List.toByteArray_inj] at hchars
    have htext : encode (String.ofList chars) = bytes := by
      rw [encode, String.toList_ofList, hchars]
    rw [← htext, decode_encode]

namespace FixedName

variable {name : FixedName}

/-- The bytes that a name shows are those of a text. -/
def IsText (name : FixedName) : Prop :=
  name.content.toByteArray.IsValidUTF8

theorem content_eq_encode_text_iff :
    name.content = Text.Utf8.encode name.text ↔ name.IsText := by
  rw [eq_comm]
  exact Text.Utf8.encode_decode_iff name.content

end FixedName

namespace CommandLine

variable {segmentName sectionName : String}

theorem cutTarget?_append (hcomma : ',' ∉ segmentName.toList)
    (sectionName : String) :
    cutTarget? (segmentName ++ "," ++ sectionName) =
      some (segmentName, sectionName) := by
  have htext : (segmentName ++ "," ++ sectionName).toList =
      segmentName.toList ++ ',' :: sectionName.toList := by
    simp
  have hbefore := Text.forall_ne_of_not_mem hcomma
  simp only [cutTarget?, htext]
  rw [if_pos (by simp), List.takeWhile_append_of_pos hbefore,
    List.dropWhile_append_of_pos hbefore]
  simp

/-- A text with a comma is cut at the first one, and nothing else is lost. -/
theorem exists_cutTarget? {text : String} (hcomma : ',' ∈ text.toList) :
    ∃ segmentName sectionName, ',' ∉ segmentName.toList ∧
      text = segmentName ++ "," ++ sectionName ∧
        cutTarget? text = some (segmentName, sectionName) := by
  obtain ⟨before, after, htext, hbefore⟩ := List.eq_append_cons_of_mem hcomma
  have hname : text =
      String.ofList before ++ "," ++ String.ofList after := by
    apply String.toList_inj.mp
    simp [htext]
  have hnone : ',' ∉ (String.ofList before).toList := by
    rwa [String.toList_ofList]
  refine ⟨String.ofList before, String.ofList after, hnone, hname, ?_⟩
  rw [hname]
  exact cutTarget?_append hnone _

end CommandLine

namespace Section

/-- The sections have the same bytes in both names. -/
def SameNames (first second : Section) : Prop :=
  first.segmentName.content = second.segmentName.content ∧
    first.sectionName.content = second.sectionName.content

end Section

namespace SectionTable

theorem isNamed_iff (segmentName sectionName : String) (s : Section) :
    isNamed segmentName sectionName s = true ↔
      s.segmentName.content = Text.Utf8.encode segmentName ∧
        s.sectionName.content = Text.Utf8.encode sectionName := by
  rw [isNamed, decide_eq_true_iff]

theorem name_of_isNamed {segmentName sectionName : String} {s : Section}
    (hnamed : isNamed segmentName sectionName s = true) :
    s.name = segmentName ++ "," ++ sectionName := by
  obtain ⟨hsegment, hsection⟩ := (isNamed_iff _ _ s).mp hnamed
  rw [Section.name, FixedName.text_of_content hsegment,
    FixedName.text_of_content hsection]

theorem sameNames_of_isNamed {segmentName sectionName : String}
    {first second : Section}
    (hfirst : isNamed segmentName sectionName first = true)
    (hsecond : isNamed segmentName sectionName second = true) :
    first.SameNames second := by
  rw [isNamed_iff] at hfirst hsecond
  exact ⟨hfirst.1.trans hsecond.1.symm, hfirst.2.trans hsecond.2.symm⟩

theorem isNamed_of_sameNames {segmentName sectionName : String}
    {first second : Section} (hsame : first.SameNames second)
    (hsecond : isNamed segmentName sectionName second = true) :
    isNamed segmentName sectionName first = true := by
  rw [isNamed_iff] at hsecond ⊢
  exact ⟨hsame.1.trans hsecond.1, hsame.2.trans hsecond.2⟩

/-- A section answers to the names that it shows exactly when both are texts. -/
theorem isNamed_text_iff (s : Section) :
    isNamed s.segmentName.text s.sectionName.text s = true ↔
      s.segmentName.IsText ∧ s.sectionName.IsText := by
  rw [isNamed_iff, FixedName.content_eq_encode_text_iff,
    FixedName.content_eq_encode_text_iff]

variable {table : SectionTable} {segmentName sectionName : String}

theorem first_of_find? {j : Nat}
    (hfind : table.find? segmentName sectionName = some j) :
    ∃ s, table.get? j = some s ∧
      isNamed segmentName sectionName s = true ∧
        ∀ k < j, ∀ other, table.get? k = some other →
          ¬ isNamed segmentName sectionName other = true := by
  obtain ⟨hj, hnamed, hbefore⟩ := List.findIdx?_eq_some_iff_getElem.mp hfind
  refine ⟨_, List.getElem?_eq_getElem hj, hnamed, ?_⟩
  intro k hk other hget
  obtain ⟨_, rfl⟩ := List.getElem?_eq_some_iff.mp hget
  exact hbefore k hk

theorem exists_find?_of_isNamed {i : Nat} {s : Section}
    (hget : table.get? i = some s)
    (hnamed : isNamed segmentName sectionName s = true) :
    ∃ j ≤ i, table.find? segmentName sectionName = some j := by
  cases hfind : table.find? segmentName sectionName with
  | none =>
      have hall := List.findIdx?_eq_none_iff.mp hfind s
        (List.mem_of_getElem? hget)
      rw [hnamed] at hall
      cases hall
  | some j =>
      refine ⟨j, ?_, rfl⟩
      obtain ⟨_, _, _, hbefore⟩ := first_of_find? hfind
      apply Nat.le_of_not_lt
      intro hlt
      exact hbefore i hlt s hget hnamed

/-- A section that is found by the two parts of a text is the first one with its
names, and shows the text as its name.  A text that a section shows finds it, or
an equally named one before it, unless the names are no texts or the cut falls
into the name of the segment. -/
theorem displayed_names_lead_back (table : SectionTable) :
    (∀ text : String, ',' ∈ text.toList →
      ∃ segmentName sectionName,
        CommandLine.cutTarget? text = some (segmentName, sectionName) ∧
        ',' ∉ segmentName.toList ∧ text = segmentName ++ "," ++ sectionName ∧
        (∀ j, table.find? segmentName sectionName = some j →
          j < table.size ∧ ∃ s, table.get? j = some s ∧ s.name = text ∧
            ∀ k < j, ∀ other, table.get? k = some other →
              ¬ other.SameNames s) ∧
        ∀ i s, table.get? i = some s → s.name = text →
          s.segmentName.IsText → s.sectionName.IsText →
            ',' ∉ s.segmentName.text.toList →
              ∃ j ≤ i, table.find? segmentName sectionName = some j ∧
                ∃ found, table.get? j = some found ∧ found.SameNames s) ∧
      ∀ i s, table.get? i = some s →
        (isNamed s.segmentName.text s.sectionName.text s = true ↔
          s.segmentName.IsText ∧ s.sectionName.IsText) := by
  refine ⟨?_, fun _ s _ => isNamed_text_iff s⟩
  intro text hcomma
  obtain ⟨segmentName, sectionName, hnone, htext, hcut⟩ :=
    CommandLine.exists_cutTarget? hcomma
  refine ⟨segmentName, sectionName, hcut, hnone, htext, ?_, ?_⟩
  · intro j hfind
    obtain ⟨s, hget, hnamed, hbefore⟩ := first_of_find? hfind
    obtain ⟨hj, _⟩ := List.getElem?_eq_some_iff.mp hget
    refine ⟨hj, s, hget, (name_of_isNamed hnamed).trans htext.symm, ?_⟩
    intro k hk other hother hsame
    exact hbefore k hk other hother (isNamed_of_sameNames hsame hnamed)
  · intro i s hget hname hsegment hsection hinside
    -- Both cuts of the text leave no comma in front, so they are the same one.
    have hown := CommandLine.cutTarget?_append hinside
      s.sectionName.text
    rw [← Section.name, hname, hcut, Option.some.injEq, Prod.mk.injEq] at hown
    have hnamed : isNamed segmentName sectionName s = true := by
      rw [hown.1, hown.2, isNamed_text_iff]
      exact ⟨hsegment, hsection⟩
    obtain ⟨j, hj, hfind⟩ := exists_find?_of_isNamed hget hnamed
    obtain ⟨found, hfound, hfoundNamed, _⟩ := first_of_find? hfind
    exact ⟨j, hj, hfind, found, hfound,
      sameNames_of_isNamed hfoundNamed hnamed⟩

def bare (segmentName : Bytes) : Section :=
  .narrow ⟨.ofText "__text", .ofBytes segmentName, 0, 0, 0, 0, 0, 0, 0, 0, 0⟩

/-- Three sections that show one name: for the first a replacement character
stands for a byte that is no text, and the others have one in their names, the
last with bytes behind the end of the name. -/
def lookalikes : SectionTable :=
  ⟨[bare [0xff], bare [0xef, 0xbf, 0xbd], bare [0xef, 0xbf, 0xbd, 0, 0xff]]⟩

theorem displayed_names_lead_back_lookalikes :
    (lookalikes.sections.map Section.name) =
        ["\uFFFD,__text", "\uFFFD,__text", "\uFFFD,__text"] ∧
      ¬ (bare [0xff]).segmentName.IsText ∧
      ∃ segmentName sectionName j,
        CommandLine.cutTarget? "\uFFFD,__text" =
            some (segmentName, sectionName) ∧
          lookalikes.find? segmentName sectionName = some j ∧ j ≤ 2 ∧
            ∃ found, lookalikes.get? j = some found ∧
              found.SameNames (bare [0xef, 0xbf, 0xbd, 0, 0xff]) ∧
                found.name = "\uFFFD,__text" := by
  obtain ⟨hcuts, hself⟩ := displayed_names_lead_back lookalikes
  obtain ⟨segmentName, sectionName, hcut, _, _, hsound, hcomplete⟩ :=
    hcuts "\uFFFD,__text" (by decide +kernel)
  have hsegment : (bare [0xef, 0xbf, 0xbd, 0, 0xff]).segmentName.IsText :=
    FixedName.content_eq_encode_text_iff.mp (by decide +kernel)
  have hsection : (bare [0xef, 0xbf, 0xbd, 0, 0xff]).sectionName.IsText :=
    FixedName.content_eq_encode_text_iff.mp (by decide +kernel)
  obtain ⟨j, hj, hfind, found, hfound, hsame⟩ := hcomplete 2 _ rfl
    (by decide +kernel) hsegment hsection (by decide +kernel)
  obtain ⟨_, s, hget, hname, _⟩ := hsound j hfind
  rw [hfound, Option.some.injEq] at hget
  refine ⟨by decide +kernel, ?_, segmentName, sectionName, j, hcut, hfind, hj,
    found, hfound, hsame, hget ▸ hname⟩
  intro htext
  have hother := (hself 0 _ rfl).mpr
    ⟨htext, FixedName.content_eq_encode_text_iff.mp (by decide +kernel)⟩
  revert hother
  decide +kernel

end SectionTable

end MachO
