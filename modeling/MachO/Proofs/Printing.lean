import MachO.Proofs.Contents
import MachO.Proofs.Hexdump
import MachO.Proofs.Lookup

/-!
# What a run prints

A run prints nothing, or all that was asked for.  Everything that can fail lies
before the first print: the image, its table, the two names of the wanted
section, the section itself and its contents.  Behind that there is only the
hex dump, which breaks off where a label leaves the 64-bit range.

Printed is what the table and the contents say.  How a run ends is found without
the log filter, and for a wanted section without the flag for long forms.
-/

namespace MachO

theorem SectionTable.display_eq (table : SectionTable) :
    table.display = "Sections (" ++ toString table.sections.length ++ "):\n" ++
      String.join
        (table.sections.map fun s => "  \"" ++ s.name ++ "\"\n") := by
  have hline (s : Section) :
      "  " ++ s.display ++ "\n" = "  \"" ++ s.name ++ "\"\n" := by
    apply String.toList_inj.mp
    simp [Section.display]
  simp only [display, size, hline]

namespace CommandLine

/-! ## Endings -/

namespace Ending

def code : Ending → Nat
  | printed _ => 0
  | failed _ => 1
  | broken _ => 101

def output : Ending → String
  | printed text => text
  | failed _ => ""
  | broken text => text

end Ending

theorem Run.code_report (run : Run) (filter : Log.Filter) :
    (run.report filter).code = run.ending.code := by
  rw [report]
  cases run.ending <;> rfl

theorem Run.output_report (run : Run) (filter : Log.Filter) :
    (run.report filter).output = run.ending.output := by
  rw [report]
  cases run.ending <;> rfl

theorem report_of_filter (arguments : Arguments) (bytes : Bytes)
    {filter : Log.Filter}
    (hfilter : Log.Filter.parse arguments.logLevel = .ok filter) :
    report arguments (.file bytes) =
      (inspect arguments bytes).report filter := by
  simp only [report, hfilter]

/-! ## Sections that are wanted -/

section Dump

variable {table : SectionTable} {shared : SharedStream}
  {target segmentName sectionName : String} {index : Nat} {s : Section}

theorem dump_of_not_mem (hcomma : ',' ∉ target.toList) :
    dump table shared target = .failed (.target target) := by
  have hcut : cutTarget? target = none := by
    rw [cutTarget?, if_neg]
    rwa [List.contains_iff_mem]
  simp only [dump, hcut]

theorem dump_of_find?_eq_none
    (hcut : cutTarget? target = some (segmentName, sectionName))
    (hfind : table.find? segmentName sectionName = none) :
    dump table shared target = .failed (.noSection target) := by
  simp only [dump, hcut, hfind, Option.bind_none]

theorem dump_of_contents_error
    (hcut : cutTarget? target = some (segmentName, sectionName))
    (hfind : table.find? segmentName sectionName = some index)
    (hget : table.get? index = some s) {failure : Error}
    (hcontents : (table.contents index shared).1 = .error failure) :
    dump table shared target = .failed (.contents failure) := by
  simp only [dump, hcut, hfind, Option.bind_some, hget, Option.map_some,
    hcontents]

theorem dump_of_contents
    (hcut : cutTarget? target = some (segmentName, sectionName))
    (hfind : table.find? segmentName sectionName = some index)
    (hget : table.get? index = some s) {contents : Bytes}
    (hcontents : (table.contents index shared).1 = .ok (some contents)) :
    dump table shared target = dumpSection s contents := by
  simp only [dump, hcut, hfind, Option.bind_some, hget, Option.map_some,
    hcontents]

end Dump

/-! ## Runs over a file -/

/-- The stream that an image is read from. -/
def source (image : Image) (bytes : Bytes) : Stream :=
  .start image.order (.ofBytes bytes)

def building (image : Image) (bytes : Bytes) : SectionTable.Building :=
  SectionTable.build (image.segments.map Segment.view)
    (.ofStream (source image bytes))

/-- The file is an image with this table. -/
structure Opens (bytes : Bytes) (image : Image) (table : SectionTable) :
    Prop where
  parsed : Image.parse bytes = .ok image
  built : (building image bytes).result = .ok table

/-- What keeps a run from printing anything: the image, the table, or a wanted
section that is not given by two names, does not exist or cannot be read. -/
inductive Fails (bytes : Bytes) (dump? : Option String) : Prop
  | image {failure : Error} (hparse : Image.parse bytes = .error failure)
  | table {image : Image} {failure : Error}
      (hparse : Image.parse bytes = .ok image)
      (hbuild : (building image bytes).result = .error failure)
  | target {image : Image} {table : SectionTable} {text : String}
      (hopens : Opens bytes image table) (hdump : dump? = some text)
      (hcomma : ',' ∉ text.toList)
  | noSection {image : Image} {table : SectionTable}
      {segmentName sectionName : String}
      (hopens : Opens bytes image table)
      (hdump : dump? = some (segmentName ++ "," ++ sectionName))
      (hcomma : ',' ∉ segmentName.toList)
      (hfind : table.find? segmentName sectionName = none)
  | contents {image : Image} {table : SectionTable}
      {segmentName sectionName : String} {index : Nat} {failure : Error}
      (hopens : Opens bytes image table)
      (hdump : dump? = some (segmentName ++ "," ++ sectionName))
      (hcomma : ',' ∉ segmentName.toList)
      (hfind : table.find? segmentName sectionName = some index)
      (hcontents :
        (table.contents index (.ofStream (source image bytes))).1 =
          .error failure)

/-- The section is the wanted one: the first one with the two names, which the
text gives before and behind its first comma. -/
structure Wanted (table : SectionTable) (text : String) (index : Nat)
    (s : Section) : Prop where
  get?_eq : table.get? index = some s
  named : ∃ segmentName sectionName, ',' ∉ segmentName.toList ∧
    text = segmentName ++ "," ++ sectionName ∧
      SectionTable.isNamed segmentName sectionName s = true ∧
      ∀ k < index, ∀ other, table.get? k = some other →
        ¬ SectionTable.isNamed segmentName sectionName other = true

/-- What is printed for a table, with the code at the end. -/
inductive Prints (arguments : Arguments) (bytes : Bytes) (image : Image)
    (table : SectionTable) : (code : Nat) → (output : String) → Prop
  | dumped {text : String} {index : Nat} {s : Section} {contents : Bytes}
      {lines : List String}
      (hdump : arguments.dump? = some text)
      (hwanted : Wanted table text index s)
      (hcontents :
        (table.contents index (.ofStream (source image bytes))).1 =
          .ok (some contents))
      (hlines : Hexdump.lines s.address contents = .ok lines) :
      Prints arguments bytes image table 0
        (s.verbose ++ "\n" ++ String.join (lines.map (· ++ "\n")))
  | broken {text : String} {index : Nat} {s : Section} {contents : Bytes}
      (hdump : arguments.dump? = some text)
      (hwanted : Wanted table text index s)
      (hcontents :
        (table.contents index (.ofStream (source image bytes))).1 =
          .ok (some contents))
      (hnonempty : contents ≠ [])
      (hlabel : 2 ^ 64 ≤ s.address + 16 * ((contents.length - 1) / 16)) :
      Prints arguments bytes image table 101 (s.verbose ++ "\n")
  | listed (hdump : arguments.dump? = none)
      (hverbose : arguments.verbose = true) :
      Prints arguments bytes image table 0
        (String.join (table.sections.mapIdx fun index s =>
          "Section " ++ toString index ++ ":\n" ++ s.verbose ++ "\n\n"))
  | displayed (hdump : arguments.dump? = none)
      (hverbose : arguments.verbose = false) :
      Prints arguments bytes image table 0
        ("Sections (" ++ toString table.sections.length ++ "):\n" ++
          String.join (table.sections.map fun s => "  \"" ++ s.name ++ "\"\n"))

variable {arguments : Arguments} {bytes : Bytes} {image : Image}
  {table : SectionTable}

theorem ending_of_parse_error {failure : Error}
    (hparse : Image.parse bytes = .error failure) :
    (inspect arguments bytes).ending =
      .failed (.image arguments.input failure) := by
  have hresult : (Image.read bytes).result = .error failure := hparse
  simp only [inspect, hresult]

theorem ending_of_build_error {failure : Error}
    (hparse : Image.parse bytes = .ok image)
    (hbuild : (building image bytes).result = .error failure) :
    (inspect arguments bytes).ending = .failed (.table failure) := by
  have hresult : (Image.read bytes).result = .ok image := hparse
  rw [building, source] at hbuild
  simp only [inspect, hresult, hbuild]

theorem Opens.ending_eq (hopens : Opens bytes image table)
    (arguments : Arguments) :
    (inspect arguments bytes).ending =
      present arguments table (building image bytes).shared := by
  have hresult : (Image.read bytes).result = .ok image := hopens.parsed
  have hbuilt := hopens.built
  rw [building, source] at hbuilt
  simp only [inspect, hresult, hbuilt]
  rfl

/-- Building a table leaves the stream as it was, up to the place of its
cursor, on which the contents do not depend. -/
theorem contents_building (image : Image) (bytes : Bytes)
    (table : SectionTable) (index : Nat) :
    (table.contents index (building image bytes).shared).1 =
      (table.contents index (.ofStream (source image bytes))).1 := by
  obtain ⟨cursor, hshared⟩ := SectionTable.exists_build_shared
    (image.segments.map Segment.view) (.ofStream (source image bytes))
  rw [building, hshared]
  exact SectionTable.contents_moveTo table index (source image bytes) cursor

theorem Opens.ending_of_dump? (hopens : Opens bytes image table)
    {text : String} (hdump : arguments.dump? = some text) :
    (inspect arguments bytes).ending =
      dump table (building image bytes).shared text := by
  rw [hopens.ending_eq, present, hdump]

/-- Whatever keeps a run from printing is met before it prints. -/
theorem Fails.exists_failure (hfails : Fails bytes arguments.dump?) :
    ∃ failure, (inspect arguments bytes).ending = .failed failure := by
  cases hfails with
  | image hparse => exact ⟨_, ending_of_parse_error hparse⟩
  | table hparse hbuild => exact ⟨_, ending_of_build_error hparse hbuild⟩
  | target hopens hdump hcomma =>
      rw [hopens.ending_of_dump? hdump]
      exact ⟨_, dump_of_not_mem hcomma⟩
  | noSection hopens hdump hcomma hfind =>
      rw [hopens.ending_of_dump? hdump]
      exact ⟨_, dump_of_find?_eq_none (cutTarget?_append hcomma _) hfind⟩
  | contents hopens hdump hcomma hfind hcontents =>
      obtain ⟨s, hget, _⟩ := SectionTable.first_of_find? hfind
      rw [← contents_building] at hcontents
      rw [hopens.ending_of_dump? hdump]
      exact ⟨_, dump_of_contents_error (cutTarget?_append hcomma _) hfind hget
        hcontents⟩

theorem Prints.of_contents {text : String} {index : Nat} {s : Section}
    {contents : Bytes} (hdump : arguments.dump? = some text)
    (hwanted : Wanted table text index s)
    (hcontents :
      (table.contents index (.ofStream (source image bytes))).1 =
        .ok (some contents)) :
    Prints arguments bytes image table (dumpSection s contents).code
      (dumpSection s contents).output := by
  have hlines := Hexdump.lines_eq s.address contents
  by_cases hrange : contents = [] ∨
      s.address + 16 * ((contents.length - 1) / 16) < 2 ^ 64
  · rw [if_pos hrange] at hlines
    simp only [dumpSection, hlines]
    exact .dumped hdump hwanted hcontents hlines
  · rw [if_neg hrange] at hlines
    simp only [dumpSection, hlines]
    rw [not_or, not_lt] at hrange
    exact .broken hdump hwanted hcontents hrange.1 hrange.2

theorem Opens.fails_or_dumps (hopens : Opens bytes image table)
    {text : String} (hdump : arguments.dump? = some text) :
    Fails bytes arguments.dump? ∨
      Prints arguments bytes image table
        (inspect arguments bytes).ending.code
        (inspect arguments bytes).ending.output := by
  by_cases hcomma : ',' ∈ text.toList
  swap
  · exact Or.inl (.target hopens hdump hcomma)
  obtain ⟨segmentName, sectionName, hnone, htext, hcut⟩ :=
    exists_cutTarget? hcomma
  have hboth : arguments.dump? =
      some (segmentName ++ "," ++ sectionName) := by
    rw [hdump, htext]
  cases hfind : table.find? segmentName sectionName with
  | none => exact Or.inl (.noSection hopens hboth hnone hfind)
  | some index =>
      obtain ⟨s, hget, hnamed, hbefore⟩ := SectionTable.first_of_find? hfind
      cases hcontents :
          (table.contents index (.ofStream (source image bytes))).1 with
      | error failure =>
          exact Or.inl (.contents hopens hboth hnone hfind hcontents)
      | ok contents? =>
          cases contents? with
          | none =>
              -- The section was found in the table, so its index is in range.
              have hpast := (SectionTable.contents_eq_none_iff _).mp hcontents
              rw [← SectionTable.get?_eq_none_iff, hget] at hpast
              cases hpast
          | some contents =>
              have hwanted : Wanted table text index s :=
                ⟨hget, segmentName, sectionName, hnone, htext, hnamed,
                  hbefore⟩
              have hshared := contents_building image bytes table index
              rw [hopens.ending_of_dump? hdump,
                dump_of_contents hcut hfind hget (hshared.trans hcontents)]
              exact Or.inr (.of_contents hdump hwanted hcontents)

theorem fails_or_prints (arguments : Arguments) (bytes : Bytes) :
    Fails bytes arguments.dump? ∨ ∃ image table, Opens bytes image table ∧
      Prints arguments bytes image table
        (inspect arguments bytes).ending.code
        (inspect arguments bytes).ending.output := by
  cases hparse : Image.parse bytes with
  | error failure => exact Or.inl (.image hparse)
  | ok image =>
      cases hbuild : (building image bytes).result with
      | error failure => exact Or.inl (.table hparse hbuild)
      | ok table =>
          have hopens : Opens bytes image table := ⟨hparse, hbuild⟩
          cases hdump : arguments.dump? with
          | some text =>
              have hdumps := hopens.fails_or_dumps hdump
              rw [hdump] at hdumps
              exact hdumps.imp_right fun hprints =>
                ⟨image, table, hopens, hprints⟩
          | none =>
              refine Or.inr ⟨image, table, hopens, ?_⟩
              rw [hopens.ending_eq, present, hdump]
              cases hverbose : arguments.verbose with
              | true => exact .listed hdump hverbose
              | false =>
                  simp only [Bool.false_eq_true, if_false, SectionTable.display_eq]
                  exact .displayed hdump hverbose

/-- Where a dump breaks off, its section has been described. -/
theorem Prints.succeeds_or_tells {code : Nat} {output : String}
    (hprints : Prints arguments bytes image table code output) :
    code = 0 ∨ output ≠ "" := by
  cases hprints with
  | broken _ _ _ _ _ =>
      right
      intro hempty
      have hlist := congrArg String.toList hempty
      simp at hlist
  | _ => exact Or.inl rfl

/-- A run with an accepted log filter prints nothing exactly if it fails, and
else what was asked for.  Neither the filter nor, for a wanted section, the flag
for long forms has a say in that. -/
theorem report_prints_all_or_nothing (arguments : Arguments) (bytes : Bytes)
    {filter : Log.Filter}
    (hfilter : Log.Filter.parse arguments.logLevel = .ok filter) :
    let run := report arguments (.file bytes)
    (run.code ≠ 0 ∧ run.output = "" ↔ Fails bytes arguments.dump?) ∧
      (Fails bytes arguments.dump? → run.code = 1) ∧
      (¬ Fails bytes arguments.dump? →
        ∃ image table, Opens bytes image table ∧
          Prints arguments bytes image table run.code run.output) ∧
      (∀ level other, Log.Filter.parse level = .ok other →
        let second := report { arguments with logLevel := level } (.file bytes)
        second.code = run.code ∧ second.output = run.output) ∧
      (arguments.dump? ≠ none → ∀ verbose,
        report { arguments with verbose := verbose } (.file bytes) = run) := by
  intro run
  have hrun : run = (inspect arguments bytes).report filter :=
    report_of_filter arguments bytes hfilter
  have hcode : run.code = (inspect arguments bytes).ending.code := by
    rw [hrun, Run.code_report]
  have houtput : run.output = (inspect arguments bytes).ending.output := by
    rw [hrun, Run.output_report]
  have hcases := fails_or_prints arguments bytes
  rw [← hcode, ← houtput] at hcases
  have hfailure (hfails : Fails bytes arguments.dump?) :
      run.code = 1 ∧ run.output = "" := by
    obtain ⟨failure, hending⟩ := hfails.exists_failure
    rw [hcode, houtput, hending]
    exact ⟨rfl, rfl⟩
  refine ⟨⟨?_, ?_⟩, fun hfails => (hfailure hfails).1, ?_, ?_, ?_⟩
  · rintro ⟨hnonzero, hempty⟩
    rcases hcases with hfails | ⟨image, table, _, hprints⟩
    · exact hfails
    · rcases hprints.succeeds_or_tells with hzero | htells
      · exact absurd hzero hnonzero
      · exact absurd hempty htells
  · intro hfails
    obtain ⟨hone, hempty⟩ := hfailure hfails
    rw [hone]
    exact ⟨Nat.one_ne_zero, hempty⟩
  · exact hcases.resolve_left
  · intro level other hother second
    have hsecond : second = (inspect arguments bytes).report other :=
      report_of_filter { arguments with logLevel := level } bytes hother
    rw [hcode, houtput, hsecond, Run.code_report, Run.output_report]
    exact ⟨rfl, rfl⟩
  · intro hdump verbose
    obtain ⟨text, hdump⟩ := Option.ne_none_iff_exists'.mp hdump
    have hinspect : inspect { arguments with verbose := verbose } bytes =
        inspect arguments bytes := by
      simp only [inspect, present, hdump]
    rw [hrun, ← hinspect]
    exact report_of_filter { arguments with verbose := verbose } bytes hfilter

/-- The wanted section is given by one name, and nothing is printed, with or
without the long form and whatever is logged. -/
theorem report_prints_all_or_nothing_oneName :
    ∃ filter, Log.Filter.parse "sectab=trace" = .ok filter ∧
      let run := report ⟨"image", true, some "__text", "sectab=trace"⟩
        (.file Image.trailing)
      run.code = 1 ∧ run.output = "" ∧
        report ⟨"image", false, some "__text", "sectab=trace"⟩
          (.file Image.trailing) = run := by
  have hfilter : Log.Filter.parse "sectab=trace" =
      .ok [⟨"sectab".toList, none, none, 5⟩] := by
    decide +kernel
  have hopens : ∃ image table, Opens Image.trailing image table := by
    have hparse : Image.parse Image.trailing =
        .ok ⟨.little, .bits32, [Image.trailingSegment]⟩ := by
      decide +kernel
    have hbuild : (building ⟨.little, .bits32, [Image.trailingSegment]⟩
        Image.trailing).result =
          .ok ⟨[.narrow ⟨.blank, .blank, 0, 0, 0, 0, 0, 0, 0, 0, 0⟩]⟩ := by
      decide +kernel
    exact ⟨_, _, hparse, hbuild⟩
  obtain ⟨image, table, hopens⟩ := hopens
  have hfails : Fails Image.trailing (some "__text") :=
    .target hopens rfl (by decide)
  obtain ⟨hnothing, hcode, _, _, hverbose⟩ :=
    report_prints_all_or_nothing
      ⟨"image", true, some "__text", "sectab=trace"⟩ Image.trailing hfilter
  refine ⟨_, hfilter, hcode hfails, (hnothing.mpr hfails).2, ?_⟩
  exact hverbose (Option.some_ne_none _) false

end CommandLine

end MachO
