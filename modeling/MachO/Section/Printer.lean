import MachO.Section.Codec
import MachO.Text.Hex
import MachO.Text.Outline
import MachO.Text.Quoted

/-!
# Sections as text

A section is shown by its name in quotes, by four labelled lines, or field by
field.
-/

namespace MachO

def Value.shown : Value → String
  | word32 word => toString word.toNat
  | word64 word => toString word.toNat
  | name contents => Text.Quoted.encode contents.text

/-- The fields of a record, each with its value. -/
def Format.outline {Record : Type} (format : Format Record)
    (style : Text.Outline.Style) (name : String) (record : Record) :
    Text.Outline.Lines :=
  Text.Outline.record style name
    ((format.fields.map Field.name).zip
      ((format.toValues record).map fun value => [value.shown]))

namespace Section

def name (s : Section) : String :=
  s.segmentName.text ++ "," ++ s.sectionName.text

def display (s : Section) : String :=
  "\"" ++ s.name ++ "\""

/-- Four labelled lines, the last one without an end. -/
def verbose (s : Section) : String :=
  "\n".intercalate [
    "Name: " ++ s.name,
    "Size: 0x" ++ Text.Hex.ofNat s.size,
    "Offset: 0x" ++ Text.Hex.ofNat s.offset,
    "Address: 0x" ++ Text.Hex.ofNat s.address]

def outline (style : Text.Outline.Style) : Section → Text.Outline.Lines
  | narrow header =>
      Text.Outline.wrapped style "Narrow"
        (NarrowSection.format.outline style "Section32" header)
  | wide header =>
      Text.Outline.wrapped style "Wide"
        (WideSection.format.outline style "Section64" header)

end Section

end MachO
