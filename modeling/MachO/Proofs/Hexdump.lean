import MachO.Hexdump
import MachO.Proofs.TextCut

/-!
# Hex dumps read back

A hex dump shows all of its bytes.  Its labels grow with the addresses, its last
row may be short, and the printable part may hold any of the signs that divide a
line; but labels hold no space, so that the hexadecimal area of a line starts
behind the first two, and the area has the same width in every line.

The one thing that can stop a dump is a label that leaves the 64-bit range.  The
labels ascend, so this depends on the last row alone.
-/

namespace MachO

namespace Text.Hex

/-! ## Numbers -/

/-- The value of a lower-case hexadecimal digit. -/
def digit? (char : Char) : Option Nat :=
  if '0' ≤ char ∧ char ≤ '9' then some (char.toNat - 48)
  else if 'a' ≤ char ∧ char ≤ 'f' then some (char.toNat - 87)
  else none

/-- The number that digits are read as behind those of another one. -/
def numberFrom? (number : Nat) (chars : List Char) : Option Nat :=
  chars.foldlM (fun sofar char => (digit? char).map (16 * sofar + ·)) number

def number? (chars : List Char) : Option Nat :=
  numberFrom? 0 chars

/-- The characters are a number in at least so many digits, and in no more than
it takes beyond that. -/
structure IsNumeral (width number : Nat) (chars : List Char) : Prop where
  reads : number? chars = some number
  width_le : width ≤ chars.length
  least : width < chars.length → chars.head? ≠ some '0'

theorem digit?_digitChar {value : Nat} (hvalue : value < 16) :
    digit? value.digitChar = some value := by
  have hall : ∀ v < 16, digit? (Nat.digitChar v) = some v := by decide
  exact hall value hvalue

theorem numberFrom?_append (number : Nat) (front rest : List Char) :
    numberFrom? number (front ++ rest) =
      (numberFrom? number front).bind fun sofar => numberFrom? sofar rest :=
  List.foldlM_append

theorem numberFrom?_digitChar (number : Nat) {value : Nat}
    (hvalue : value < 16) :
    numberFrom? number [value.digitChar] = some (16 * number + value) := by
  simp [numberFrom?, digit?_digitChar hvalue]

theorem number?_toDigits (number : Nat) :
    number? (Nat.toDigits 16 number) = some number := by
  induction number using Nat.strong_induction_on with
  | h number ih =>
      by_cases hsmall : number < 16
      · rw [Nat.toDigits_of_lt_base hsmall, number?,
          numberFrom?_digitChar 0 hsmall]
        simp
      · have hread := ih (number / 16) (by omega)
        rw [number?] at hread ⊢
        rw [Nat.toDigits_of_base_le (by decide) (by omega), numberFrom?_append,
          hread, Option.bind_some, numberFrom?_digitChar _ (by omega),
          Nat.div_add_mod]

theorem head?_toDigits {number : Nat} (hpos : 0 < number) :
    (Nat.toDigits 16 number).head? ≠ some '0' := by
  induction number using Nat.strong_induction_on with
  | h number ih =>
      by_cases hsmall : number < 16
      · rw [Nat.toDigits_of_lt_base hsmall, List.head?_singleton]
        intro hzero
        have hvalue := digit?_digitChar hsmall
        rw [Option.some.inj hzero] at hvalue
        have hnumber : 0 = number := Option.some.inj hvalue
        omega
      · have hhead := ih (number / 16) (by omega) (by omega)
        rw [Nat.toDigits_of_base_le (by decide) (by omega),
          List.head?_append_of_ne_nil _ Nat.toDigits_ne_nil]
        exact hhead

theorem number?_replicate_append (count : Nat) (chars : List Char) :
    number? (List.replicate count '0' ++ chars) = number? chars := by
  induction count with
  | zero => rfl
  | succ count ih =>
      rw [List.replicate_succ, List.cons_append, ← ih]
      rfl

theorem isNumeral_padded {width : Nat} (hwidth : 0 < width) (number : Nat) :
    IsNumeral width number (padded width number).toList := by
  have hchars : (padded width number).toList =
      List.replicate (width - (Nat.toDigits 16 number).length) '0' ++
        Nat.toDigits 16 number := by
    rw [padded, String.toList_ofList, List.leftpad]
  constructor
  · rw [hchars, number?_replicate_append, number?_toDigits]
  · rw [hchars, List.length_append, List.length_replicate]
    omega
  · rw [hchars, List.length_append, List.length_replicate]
    intro hlonger
    have hnone : width - (Nat.toDigits 16 number).length = 0 := by omega
    rw [hnone, List.replicate_zero, List.nil_append]
    apply head?_toDigits
    apply Nat.pos_of_ne_zero
    rintro rfl
    have hone : (Nat.toDigits 16 0).length = 1 := rfl
    omega

theorem not_mem_of_number? {chars : List Char} {number : Nat} {char : Char}
    (hreads : number? chars = some number) (hchar : digit? char = none) :
    char ∉ chars := by
  intro hmem
  obtain ⟨before, after, rfl⟩ := List.append_of_mem hmem
  rw [number?, numberFrom?_append] at hreads
  cases hbefore : numberFrom? 0 before with
  | none => simp [hbefore] at hreads
  | some sofar => simp [numberFrom?, hchar] at hreads

theorem toList_ofByte (byte : UInt8) :
    (ofByte byte).toList =
      [(byte.toNat / 16).digitChar, (byte.toNat % 16).digitChar] := by
  have hbyte := byte.toNat_lt
  rw [ofByte, padded, String.toList_ofList, List.leftpad]
  by_cases hsmall : byte.toNat < 16
  · rw [Nat.toDigits_of_lt_base hsmall, Nat.div_eq_of_lt hsmall,
      Nat.mod_eq_of_lt hsmall]
    rfl
  · rw [Nat.toDigits_of_base_le (by decide) (by omega),
      Nat.toDigits_of_lt_base (by omega)]
    rfl

end Text.Hex

namespace Hexdump

/-! ## Rows -/

theorem rows_eq_nil_iff {bytes : Bytes} : rows bytes = [] ↔ bytes = [] := by
  cases bytes <;> simp [rows]

theorem flatten_rows (bytes : Bytes) : (rows bytes).flatten = bytes := by
  induction bytes using rows.induct with
  | case1 =>
      rw [rows]
      rfl
  | case2 byte rest ih =>
      rw [rows, List.flatten_cons, ih, List.take_append_drop]

theorem length_rows (bytes : Bytes) :
    (rows bytes).length = (bytes.length + 15) / 16 := by
  induction bytes using rows.induct with
  | case1 =>
      rw [rows]
      rfl
  | case2 byte rest ih =>
      have hpos : 0 < (byte :: rest).length := Nat.succ_pos _
      have hstep : rowLength = 16 := rfl
      rw [rows, List.length_cons, ih, List.length_drop, hstep]
      omega

theorem eq_of_getElem?_rows {bytes row : Bytes} {k : Nat}
    (hrow : (rows bytes)[k]? = some row) :
    row = (bytes.drop (16 * k)).take 16 := by
  induction bytes using rows.induct generalizing k with
  | case1 => simp [rows] at hrow
  | case2 byte rest ih =>
      rw [rows] at hrow
      cases k with
      | zero => exact (Option.some.inj hrow).symm
      | succ k =>
          have hstep : rowLength + 16 * k = 16 * (k + 1) := by
            rw [rowLength, Nat.mul_succ, Nat.add_comm]
          rw [List.getElem?_cons_succ] at hrow
          rw [ih hrow, List.drop_drop, hstep]

theorem length_le_of_mem_rows {bytes row : Bytes} (hrow : row ∈ rows bytes) :
    row.length ≤ 16 := by
  obtain ⟨k, hget⟩ := List.mem_iff_getElem?.mp hrow
  rw [eq_of_getElem?_rows hget]
  exact List.length_take_le _ _

/-- A label leaves the range exactly if the last one does. -/
theorem linesOf_eq (address : Nat) (rows : List Bytes) :
    linesOf address rows =
      if rows = [] ∨ address + 16 * (rows.length - 1) < 2 ^ 64 then
        .ok (rows.mapIdx fun k row => line (address + 16 * k) row)
      else
        .error .labelRange := by
  have hrange : addressableRange = 2 ^ 64 := rfl
  induction rows generalizing address with
  | nil => rfl
  | cons row rows ih =>
      have hstep : rowLength = 16 := rfl
      rw [linesOf, ih, hrange, hstep]
      by_cases hfirst : 2 ^ 64 ≤ address
      · rw [if_pos hfirst, if_neg]
        rintro (hnil | hlast)
        · cases hnil
        · omega
      · rw [if_neg hfirst]
        -- This row is the last one, or its label is below the last one.
        have hlast : row :: rows = [] ∨
              address + 16 * ((row :: rows).length - 1) < 2 ^ 64 ↔
            rows = [] ∨ address + 16 + 16 * (rows.length - 1) < 2 ^ 64 := by
          cases rows with
          | nil =>
              simp only [List.cons_ne_nil, List.length_singleton, true_or,
                false_or, iff_true]
              omega
          | cons next rows =>
              simp only [List.cons_ne_nil, List.length_cons, false_or]
              omega
        simp only [hlast]
        split
        · have hlabels (k : Nat) :
              address + 16 + 16 * k = address + 16 * (k + 1) := by
            omega
          simp only [Except.map, List.mapIdx_cons, hlabels, Nat.mul_zero,
            Nat.add_zero]
        · rfl

theorem lines_eq (base : Nat) (bytes : Bytes) :
    lines base bytes =
      if bytes = [] ∨ base + 16 * ((bytes.length - 1) / 16) < 2 ^ 64 then
        .ok ((rows bytes).mapIdx fun k row => line (base + 16 * k) row)
      else
        .error .labelRange := by
  have hcount : (rows bytes).length - 1 = (bytes.length - 1) / 16 := by
    rw [length_rows]
    omega
  rw [lines, linesOf_eq, hcount]
  simp only [rows_eq_nil_iff]

/-! ## Areas -/

/-- The bytes that are written as two digits each, with spaces anywhere between
them. -/
def bytesOf? : List Char → Option Bytes
  | [] => some []
  | ' ' :: rest => bytesOf? rest
  | high :: low :: rest =>
      (Text.Hex.number? [high, low]).bind fun value =>
        (bytesOf? rest).map (UInt8.ofNat value :: ·)
  | [_] => none

/-- The hexadecimal area of a line, which starts behind the spaces behind the
label. -/
def areaOf (text : String) : List Char :=
  ((text.toList.dropWhile (· ≠ ' ')).drop 2).take areaWidth

def readBack? (texts : List String) : Option Bytes :=
  (texts.mapM fun text => bytesOf? (areaOf text)).map List.flatten

def pairs (row : Bytes) : List Char :=
  [' '].intercalate (row.map fun byte => (Text.Hex.ofByte byte).toList)

theorem toList_area (row : Bytes) :
    (area row).toList = pairs row ++
      List.replicate (47 - (pairs row).length) ' ' := by
  rw [area, String.toList_ofList, String.toList_intercalate, List.rightpad,
    List.map_map]
  rfl

theorem bytesOf?_ofByte_append (byte : UInt8) (rest : List Char) :
    bytesOf? ((Text.Hex.ofByte byte).toList ++ rest) =
      (bytesOf? rest).map (byte :: ·) := by
  have hspace : (byte.toNat / 16).digitChar ≠ ' ' := Nat.digitChar_ne _ rfl
  have hvalue := (Text.Hex.isNumeral_padded two_pos byte.toNat).reads
  rw [← Text.Hex.ofByte, Text.Hex.toList_ofByte] at hvalue
  rw [Text.Hex.toList_ofByte, List.cons_append, List.singleton_append,
    bytesOf?, hvalue, Option.bind_some, UInt8.ofNat_toNat]
  -- Only a digit is left to be no space, which the reader would pass over.
  exact hspace

theorem bytesOf?_replicate (count : Nat) :
    bytesOf? (List.replicate count ' ') = some [] := by
  induction count with
  | zero => rfl
  | succ count ih => rw [List.replicate_succ, bytesOf?, ih]

theorem pairs_cons_cons (byte next : UInt8) (row : Bytes) :
    pairs (byte :: next :: row) =
      (Text.Hex.ofByte byte).toList ++ ' ' :: pairs (next :: row) := by
  simp [pairs, List.intercalate_cons_cons]

theorem pairs_singleton (byte : UInt8) :
    pairs [byte] = (Text.Hex.ofByte byte).toList :=
  List.intercalate_singleton

theorem length_pairs (row : Bytes) :
    (pairs row).length = 3 * row.length - 1 := by
  induction row with
  | nil => rfl
  | cons byte row ih =>
      cases row with
      | nil => rw [pairs_singleton, Text.Hex.toList_ofByte]; rfl
      | cons next row =>
          rw [pairs_cons_cons, Text.Hex.toList_ofByte]
          simp only [List.length_append, List.length_cons, List.length_nil, ih]
          omega

theorem bytesOf?_pairs_append (row : Bytes) (rest : List Char) :
    bytesOf? (pairs row ++ rest) = (bytesOf? rest).map (row ++ ·) := by
  induction row with
  | nil =>
      rw [show pairs [] = [] from List.intercalate_nil]
      simp
  | cons byte row ih =>
      cases row with
      | nil =>
          rw [pairs_singleton, bytesOf?_ofByte_append]
          rfl
      | cons next row =>
          rw [pairs_cons_cons, List.append_assoc, bytesOf?_ofByte_append,
            List.cons_append, bytesOf?, ih, Option.map_map]
          rfl

theorem bytesOf?_area (row : Bytes) : bytesOf? (area row).toList = some row := by
  rw [toList_area, bytesOf?_pairs_append, bytesOf?_replicate, Option.map_some,
    List.append_nil]

theorem length_area {row : Bytes} (hrow : row.length ≤ 16) :
    (area row).toList.length = 47 := by
  have hpairs := length_pairs row
  rw [toList_area, List.length_append, List.length_replicate]
  omega

theorem toList_line (address : Nat) (row : Bytes) :
    (line address row).toList =
      (Text.Hex.padded 8 address).toList ++ ([' ', ' '] ++
        ((area row).toList ++ ([' ', ' ', '|'] ++
          (row.map character ++ ['|'])))) := by
  simp [line]

theorem areaOf_line (address : Nat) {row : Bytes} (hrow : row.length ≤ 16) :
    areaOf (line address row) = (area row).toList := by
  have hlabel := (Text.Hex.isNumeral_padded (by decide : 0 < 8) address).reads
  have hspace : ' ' ∉ (Text.Hex.padded 8 address).toList :=
    Text.Hex.not_mem_of_number? hlabel rfl
  have hgap (rest : List Char) :
      (([' ', ' '] ++ rest).dropWhile (· ≠ ' ')).drop 2 = rest := by
    simp
  have hwidth : areaWidth = (area row).toList.length := (length_area hrow).symm
  rw [areaOf, toList_line,
    List.dropWhile_append_of_pos (Text.forall_ne_of_not_mem hspace), hgap,
    hwidth, List.take_left]

theorem readBack?_mapIdx {rows : List Bytes} {texts : Nat → Bytes → String}
    (hread : ∀ k, ∀ row ∈ rows, bytesOf? (areaOf (texts k row)) = some row) :
    readBack? (rows.mapIdx texts) = some rows.flatten := by
  have hrows : (rows.mapIdx texts).mapM (fun text => bytesOf? (areaOf text)) =
      some rows := by
    induction rows generalizing texts with
    | nil => rfl
    | cons row rows ih =>
        obtain ⟨hfirst, hrest⟩ := List.forall_mem_cons.mp (hread 0)
        have hnext (k : Nat) : ∀ next ∈ rows,
            bytesOf? (areaOf (texts (k + 1) next)) = some next := by
          intro next hmem
          exact hread (k + 1) next (List.mem_cons_of_mem row hmem)
        rw [List.mapIdx_cons, List.mapM_cons, hfirst, ih hnext]
        rfl
  rw [readBack?, hrows, Option.map_some]

theorem readBack?_of_lines {base : Nat} {bytes : Bytes} {texts : List String}
    (hlines : lines base bytes = .ok texts) :
    readBack? texts = some bytes := by
  rw [lines_eq] at hlines
  split at hlines
  · cases hlines
    rw [readBack?_mapIdx, flatten_rows]
    intro k row hrow
    rw [areaOf_line _ (length_le_of_mem_rows hrow), bytesOf?_area]
  · cases hlines

/-! ## Lines -/

/-- A printable byte is shown as its character, and any other as a dot. -/
def Shows (char : Char) (byte : UInt8) : Prop :=
  if 0x20 ≤ byte.toNat ∧ byte.toNat ≤ 0x7e then char.toNat = byte.toNat
  else char = '.'

theorem toNat_character {byte : UInt8}
    (hprintable : 0x20 ≤ byte ∧ byte ≤ 0x7e) :
    (character byte).toNat = byte.toNat := by
  have hvalid : byte.toNat.isValidChar := by
    have hbyte := byte.toNat_lt
    left
    omega
  rw [character, if_pos hprintable, Char.ofNat, dif_pos hvalid]
  rfl

theorem shows_character (byte : UInt8) : Shows (character byte) byte := by
  have hrange : 0x20 ≤ byte ∧ byte ≤ 0x7e ↔
      0x20 ≤ byte.toNat ∧ byte.toNat ≤ 0x7e := by
    rw [UInt8.le_iff_toNat_le, UInt8.le_iff_toNat_le]
    rfl
  simp only [Shows, ← hrange]
  split
  · next hprintable => exact toNat_character hprintable
  · next hother => rw [character, if_neg hother]

/-- The text is the line of a row: a label, the area of the row, and as many
characters as the row has bytes. -/
def ShowsRow (base : Nat) (bytes : Bytes) (k : Nat) (text : String) : Prop :=
  ∃ label shown,
    text.toList = label ++ ([' ', ' '] ++
        (areaOf text ++ ([' ', ' ', '|'] ++ (shown ++ ['|'])))) ∧
      Text.Hex.IsNumeral 8 (base + 16 * k) label ∧
      (areaOf text).length = 47 ∧
      shown.length = min 16 (bytes.length - 16 * k) ∧
      ∀ j char byte, shown[j]? = some char → bytes[16 * k + j]? = some byte →
        Shows char byte

theorem showsRow_line (base : Nat) (bytes : Bytes) (k : Nat) :
    ShowsRow base bytes k
      (line (base + 16 * k) ((bytes.drop (16 * k)).take 16)) := by
  have hlength := List.length_take_le 16 (bytes.drop (16 * k))
  refine ⟨_, ((bytes.drop (16 * k)).take 16).map character, ?_,
    Text.Hex.isNumeral_padded (by decide) _, ?_, ?_, ?_⟩
  · rw [areaOf_line _ hlength, toList_line]
  · rw [areaOf_line _ hlength, length_area hlength]
  · rw [List.length_map, List.length_take, List.length_drop]
  · intro j char byte hchar hbyte
    rw [List.getElem?_map, Option.map_eq_some_iff] at hchar
    obtain ⟨shown, hshown, rfl⟩ := hchar
    obtain ⟨hj, _⟩ := List.getElem?_eq_some_iff.mp hshown
    rw [List.getElem?_take_of_lt (by omega), List.getElem?_drop, hbyte,
      Option.some.injEq] at hshown
    rw [← hshown]
    exact shows_character byte

/-- Every byte is shown, in hexadecimal and as a character, or the last label
leaves the range. -/
theorem lines_lose_nothing (base : Nat) (bytes : Bytes) :
    if bytes ≠ [] ∧ 2 ^ 64 ≤ base + 16 * ((bytes.length - 1) / 16) then
      lines base bytes = .error .labelRange
    else
      ∃ texts, lines base bytes = .ok texts ∧
        texts.length = (bytes.length + 15) / 16 ∧
        (∀ k text, texts[k]? = some text → ShowsRow base bytes k text) ∧
        readBack? texts = some bytes ∧
        ∀ other, lines base other = .ok texts → other = bytes := by
  have hlines := lines_eq base bytes
  split
  · next hover =>
    rw [hlines, if_neg]
    rintro (hnil | hlast)
    · exact hover.1 hnil
    · omega
  · next hfits =>
    rw [if_pos] at hlines
    · refine ⟨_, hlines, ?_, ?_, readBack?_of_lines hlines, ?_⟩
      · rw [List.length_mapIdx, length_rows]
      · intro k text htext
        rw [List.getElem?_mapIdx, Option.map_eq_some_iff] at htext
        obtain ⟨row, hrow, rfl⟩ := htext
        rw [eq_of_getElem?_rows hrow]
        exact showsRow_line base bytes k
      · intro other hother
        have hread := readBack?_of_lines hother
        rw [readBack?_of_lines hlines, Option.some.injEq] at hread
        exact hread.symm
    · rw [or_iff_not_imp_left]
      intro hbytes
      exact Nat.lt_of_not_le fun hlast => hfits ⟨hbytes, hlast⟩

/-- A space and a bar among other bytes, over two rows. -/
def signs : Bytes :=
  [0x20, 0x7c, 0x7e, 0x7f] ++ List.replicate 13 0xff

theorem lines_lose_nothing_signs :
    let texts :=
      ["fffffff0  20 7c 7e 7f ff ff ff ff ff ff ff ff ff ff ff ff  " ++
          "| |~.............|",
        "100000000  ff                                               |.|"]
    lines 0xfffffff0 signs = .ok texts ∧ readBack? texts = some signs ∧
      (∀ other, lines 0xfffffff0 other = .ok texts → other = signs) ∧
      lines 0xfffffffffffffff0 signs = .error .labelRange := by
  intro texts
  have hshown := lines_lose_nothing 0xfffffff0 signs
  have hover := lines_lose_nothing 0xfffffffffffffff0 signs
  rw [if_neg (by decide)] at hshown
  rw [if_pos (by decide)] at hover
  obtain ⟨_, hlines, _, _, hread, hother⟩ := hshown
  have htexts : lines 0xfffffff0 signs = .ok texts := by
    rw [lines_eq, if_pos (by decide)]
    decide +kernel
  rw [htexts, Except.ok.injEq] at hlines
  subst hlines
  exact ⟨htexts, hread, hother, hover⟩

end Hexdump

end MachO
