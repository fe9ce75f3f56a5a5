import MachO.Proofs.Halts
import MachO.Proofs.Truncation

/-!
# What the log tells

Reading an image and building its table over the same bytes report what they do
as they go, and some steps are reported before they can fail.  So the log of a
run that failed is as long as the run: it has the commands before the first one
that breaks a rule, or the arrays up to the first one that does not fit, with
the section headers that were still read.

The log is described here by the bytes alone.  The run lemma for arrays carries
the number of the sections read so far, by which the reports of section headers
count through all segments.
-/

namespace MachO

namespace Log.Event

def isCommand : Event → Bool
  | segment _ => true
  | skipped .. => true
  | _ => false

def isSection : Event → Bool
  | sectionRead .. => true
  | _ => false

/-- The event reports an array of section headers, or one of the headers. -/
def isArray : Event → Bool
  | reading .. => true
  | sectionRead .. => true
  | _ => false

theorem isSection_of_mem_mapIdx {index : Nat} {entries : List Section}
    {event : Event}
    (hmem : event ∈ entries.mapIdx fun i s => .sectionRead (index + i) s) :
    event.isSection = true := by
  obtain ⟨i, hi, rfl⟩ := List.mem_mapIdx.mp hmem
  rfl

theorem isArray_of_isSection {event : Event}
    (hsection : event.isSection = true) : event.isArray = true := by
  cases event with
  | sectionRead index header => rfl
  | _ => cases hsection

end Log.Event

/-! ## Commands -/

namespace CommandArea

variable {area : CommandArea}

/-- The event that a command at an offset is reported by. -/
inductive Reports (area : CommandArea) (offset : Nat) : Log.Event → Prop
  | segment {width : Width} {segment : Segment}
      (hcode : area.codeAt offset = width.segmentCode)
      (hsegment : Segment.decode area.order offset (area.bytes.drop offset)
        width = .ok segment) :
      Reports area offset (.segment segment)
  | skipped (hcode : ∀ width : Width, area.codeAt offset ≠ width.segmentCode) :
      Reports area offset (.skipped (area.codeAt offset) offset)

theorem reports_event_commandAt (hlimit : area.limit ≤ area.bytes.length)
    {offset : Nat} (hnone : area.violation? offset = none) :
    area.Reports offset (area.commandAt offset).event := by
  rcases segmentAt?_cases hlimit hnone with
    ⟨hsegment, hcode⟩ | ⟨segment, hsegment, _, _, hcommand⟩
  · have hother (width : Width) : area.codeAt offset ≠ width.segmentCode := by
      intro hsame
      apply hcode
      rw [hsame]
      cases width
      · exact Or.inl rfl
      · exact Or.inr rfl
    simp only [LoadCommand.event, commandAt, hsegment]
    exact .skipped hother
  · simp only [LoadCommand.event, commandAt, hsegment]
    exact .segment hcommand.symm (decode_of_segmentAt? hsegment)

/-- The events report the first commands, one after the other. -/
def ReportsFirst (area : CommandArea) (count : Nat) (events : List Log.Event) :
    Prop :=
  List.Forall₂ area.Reports ((List.range count).map area.offset) events

theorem reportsFirst_commands (hlimit : area.limit ≤ area.bytes.length)
    {count : Nat} (hclear : area.Clear count) :
    area.ReportsFirst count
      ((area.commands count).map LoadCommand.event) := by
  rw [ReportsFirst, commands, List.map_map, List.forall₂_map_left_iff,
    List.forall₂_map_right_iff, List.forall₂_same]
  intro k hk
  exact reports_event_commandAt hlimit (hclear k (List.mem_range.mp hk))

theorem Reports.isCommand {offset : Nat} {event : Log.Event}
    (hreports : area.Reports offset event) : event.isCommand = true := by
  cases hreports <;> rfl

theorem ReportsFirst.isCommand_of_mem {count : Nat} {events : List Log.Event}
    (hevents : area.ReportsFirst count events)
    {event : Log.Event} (hmem : event ∈ events) : event.isCommand = true := by
  rw [ReportsFirst] at hevents
  generalize (List.range count).map area.offset = offsets at hevents
  induction hevents with
  | nil => cases hmem
  | cons hfirst _ ih =>
      rcases List.mem_cons.mp hmem with rfl | hrest
      · exact hfirst.isCommand
      · exact ih hrest

theorem ReportsFirst.filter_isSection {count : Nat}
    {events : List Log.Event} (hevents : area.ReportsFirst count events) :
    events.filter Log.Event.isSection = [] := by
  rw [List.filter_eq_nil_iff]
  intro event hmem
  have hcommand := hevents.isCommand_of_mem hmem
  cases event <;> simp_all [Log.Event.isCommand, Log.Event.isSection]

end CommandArea

/-! ## Arrays -/

namespace Segment

variable (segment : Segment) (order : ByteOrder) (bytes : Bytes)

/-- The sections are the first headers of the segment, as they stand in the
bytes. -/
def Lists (entries : List Section) : Prop :=
  ∀ i s, entries[i]? = some s →
    Section.decode order
      ((bytes.drop (segment.entryStart i)).take segment.entrySize)
      segment.width = .ok s

/-- The sections are all headers of the segment, which end inside the bytes. -/
structure HasArray (entries : List Section) : Prop where
  length_eq : entries.length = segment.sectionCount.toNat
  fits : segment.Fits bytes.length
  lists : segment.Lists order bytes entries

/-- How headers of the segment are reported, when `index` headers have been
read before. -/
def reports (index : Nat) (entries : List Section) : List Log.Event :=
  .reading segment.sectionCount segment.width
      (segment.position + segment.headerSize) ::
    entries.mapIdx fun i s => .sectionRead (index + i) s

end Segment

/-- How arrays that are read one after the other are reported. -/
def Log.ofArrays : (index : Nat) → List (Segment × List Section) →
    List Log.Event
  | _, [] => []
  | index, (segment, entries) :: rest =>
      segment.reports index entries ++
        ofArrays (index + entries.length) rest

theorem Segment.filter_isSection_reports (segment : Segment) (index : Nat)
    (entries : List Section) :
    (segment.reports index entries).filter Log.Event.isSection =
      entries.mapIdx fun i s => .sectionRead (index + i) s := by
  rw [reports, List.filter_cons_of_neg Bool.false_ne_true,
    List.filter_eq_self]
  exact fun event => Log.Event.isSection_of_mem_mapIdx

namespace Log

theorem isArray_of_mem_ofArrays {index : Nat}
    {pairs : List (Segment × List Section)} {event : Event}
    (hmem : event ∈ ofArrays index pairs) : event.isArray = true := by
  induction pairs generalizing index with
  | nil => cases hmem
  | cons pair rest ih =>
      obtain ⟨segment, entries⟩ := pair
      rw [ofArrays, Segment.reports, List.cons_append, List.mem_cons,
        List.mem_append] at hmem
      rcases hmem with rfl | hentry | hrest
      · rfl
      · exact Event.isArray_of_isSection
          (Event.isSection_of_mem_mapIdx hentry)
      · exact ih hrest

theorem ofArrays_append (index : Nat)
    (first second : List (Segment × List Section)) :
    ofArrays index (first ++ second) =
      ofArrays index first ++
        ofArrays (index + (first.map Prod.snd).flatten.length) second := by
  induction first generalizing index with
  | nil => rfl
  | cons pair first ih =>
      obtain ⟨segment, entries⟩ := pair
      rw [List.cons_append, ofArrays, ofArrays, ih, List.append_assoc,
        List.map_cons, List.flatten_cons, List.length_append, Nat.add_assoc]

/-- Behind the report of the last array there is one for each of its headers,
and nothing else. -/
theorem exists_ofArrays_concat (index : Nat)
    (pairs : List (Segment × List Section)) (segment : Segment)
    (entries : List Section) :
    ∃ later, ofArrays index (pairs ++ [(segment, entries)]) =
        ofArrays index pairs ++
          .reading segment.sectionCount segment.width
            (segment.position + segment.headerSize) :: later ∧
      (∀ event ∈ later, event.isSection = true) ∧
      later.length = entries.length := by
  rw [ofArrays_append, ofArrays, ofArrays, List.append_nil, Segment.reports]
  exact ⟨_, rfl, fun event => Event.isSection_of_mem_mapIdx,
    List.length_mapIdx⟩

theorem filter_isSection_ofArrays (index : Nat)
    (pairs : List (Segment × List Section)) :
    (ofArrays index pairs).filter Event.isSection =
      (pairs.map Prod.snd).flatten.mapIdx
        fun i s => .sectionRead (index + i) s := by
  induction pairs generalizing index with
  | nil => rfl
  | cons pair rest ih =>
      -- The reports of the other arrays count on from the end of this one.
      obtain ⟨segment, entries⟩ := pair
      rw [ofArrays, List.filter_append, Segment.filter_isSection_reports, ih,
        List.map_cons, List.flatten_cons, List.mapIdx_append]
      simp only [Nat.add_assoc, Nat.add_comm entries.length]

end Log

namespace Scan

variable {bytes : Bytes} {stream : Stream}

theorem segment_ofBytes {segment : Segment}
    (hrange : segment.position + segment.headerSize < 2 ^ 64)
    (hmedium : stream.medium = .ofBytes bytes) (index : Nat) :
    let scan := Scan.segment segment.view index stream
    scan.events = segment.reports index scan.sections ∧
      segment.Lists stream.order bytes scan.sections ∧
      ((scan.failure? = none ∧
          segment.HasArray stream.order bytes scan.sections) ∨
        (scan.failure? = some (.shortRead
            (segment.entryStart scan.sections.length) segment.entrySize) ∧
          segment.Overruns bytes.length scan.sections.length)) := by
  have hwidth := segment.width?_view
  have hseek : stream.medium.seekFault? segment.view.start = none := by
    rw [hmedium]
    rfl
  have hstop : stream.medium.stop = bytes.length := by
    rw [hmedium]
    rfl
  have hreads := readsArray_headers segment.width
    segment.view.sectionCount.toNat index (stream.moveTo segment.view.start)
  rw [segment_of_seekFault?_eq_none hwidth hrange hseek]
  intro scan
  have hevents : scan.events = segment.reports index scan.sections :=
    congrArg _ hreads.events_eq
  have hlists : segment.Lists stream.order bytes scan.sections := by
    intro i s hget
    have hdecoded := hreads.decoded i s hget
    rw [Stream.medium_moveTo, hmedium] at hdecoded
    exact hdecoded
  have hinside (i : Nat) (hi : i < scan.sections.length) :
      segment.entryStart (i + 1) ≤ bytes.length := by
    have hend := (hreads.inside i hi).2
    rw [Stream.medium_moveTo, hstop] at hend
    exact hend
  refine ⟨hevents, hlists, ?_⟩
  rcases hreads.ending with
    ⟨hnone, hlength, _⟩ | ⟨failure, left, hsome, hlt, hdenies, _⟩
  · refine Or.inl ⟨hnone, hlength, ?_, hlists⟩
    rw [Segment.fits_iff_forall]
    intro i hi
    exact hinside i (hi.trans_eq hlength.symm)
  · right
    -- In memory the position is told and no read fails by itself, so the
    -- bytes have come to their end.
    rw [Stream.medium_moveTo] at hdenies
    cases hdenies with
    | untold htell =>
        rw [hmedium] at htell
        cases htell
    | broken _ _ hfails =>
        rw [hmedium] at hfails
        cases hfails
    | ended _ hover _ =>
        refine ⟨hsome, hlt, hinside, ?_⟩
        rw [hstop] at hover
        rw [Segment.entryStart_succ]
        exact hover

/-- The arrays of all segments are read, or those before the first one that
does not fit and the first headers of that one. -/
theorem segments_ofBytes {segments : List Segment}
    (hrange : ∀ segment ∈ segments,
      segment.position + segment.headerSize < 2 ^ 64)
    (hmedium : stream.medium = .ofBytes bytes) (index : Nat) :
    let scan := Scan.segments (segments.map Segment.view) index stream
    (∃ arrays,
        List.Forall₂ (fun segment => segment.HasArray stream.order bytes)
          segments arrays ∧
        scan.failure? = none ∧ scan.sections = arrays.flatten ∧
        scan.events = Log.ofArrays index (segments.zip arrays)) ∨
      ∃ before segment after arrays entries,
        segments = before ++ segment :: after ∧
        List.Forall₂ (fun segment => segment.HasArray stream.order bytes)
          before arrays ∧
        segment.Lists stream.order bytes entries ∧
        segment.Overruns bytes.length entries.length ∧
        scan.failure? = some (.shortRead
          (segment.entryStart entries.length) segment.entrySize) ∧
        scan.events = Log.ofArrays index
          (before.zip arrays ++ [(segment, entries)]) := by
  induction segments generalizing index stream with
  | nil => exact Or.inl ⟨[], .nil, rfl, rfl, rfl⟩
  | cons segment segments ih =>
      obtain ⟨hfirst, hothers⟩ := List.forall_mem_cons.mp hrange
      obtain ⟨hevents, hlists, hending⟩ :=
        segment_ofBytes hfirst hmedium index
      rw [List.map_cons]
      rcases hending with ⟨hnone, harray⟩ | ⟨hsome, hoverruns⟩
      · have hframe := frame_segment segment.view index stream
        have hrest := ih hothers (hframe.1.trans hmedium)
          (index + (Scan.segment segment.view index stream).sections.length)
        rw [hframe.2] at hrest
        rw [segments_cons_of_ok hnone]
        rcases hrest with
          ⟨arrays, harrays, hfailure, hsections, hreports⟩ |
            ⟨before, other, after, arrays, entries, hsplit, harrays,
              hentries, hoverruns, hfailure, hreports⟩
        · refine Or.inl ⟨_ :: arrays, .cons harray harrays, hfailure, ?_, ?_⟩
          · rw [List.flatten_cons, ← hsections]
            rfl
          · rw [List.zip_cons_cons, Log.ofArrays, ← hreports, ← hevents]
            rfl
        · refine Or.inr ⟨segment :: before, other, after, _ :: arrays,
            entries, ?_, .cons harray harrays, hentries, hoverruns, hfailure,
            ?_⟩
          · rw [hsplit, List.cons_append]
          · rw [List.zip_cons_cons, List.cons_append, Log.ofArrays,
              ← hreports, ← hevents]
            rfl
      · rw [segments_cons_of_error hsome]
        refine Or.inr ⟨[], segment, segments, [], _, rfl, .nil, hlists,
          hoverruns, hsome, ?_⟩
        rw [hevents]
        exact (List.append_nil _).symm

end Scan

/-! ## The whole run -/

namespace Image

/-- What is reported while an image is read and its table built over the same
bytes. -/
def log (order : ByteOrder) (cursor : Nat) (bytes : Bytes) :
    List Log.Event :=
  (read bytes).events ++
    match parse bytes with
    | .error _ => []
    | .ok image =>
        (SectionTable.build (image.segments.map Segment.view)
          (.ofStream ⟨.ofBytes bytes, order, cursor⟩)).events

/-- The log that belongs to a result, with the sections that were read.  The
events of the commands and the arrays are told by the bytes. -/
inductive Told (order : ByteOrder) (bytes : Bytes) :
    (result : Except Error (Image × SectionTable)) →
      (sections : List Section) → (log : List Log.Event) → Prop
  | silent {failure : Error}
      (hnone : ¬ ∃ magic, Announces bytes magic ∧
        (CommandArea.ofImage bytes magic).limit ≤ bytes.length) :
      Told order bytes (.error failure) [] []
  | malformed {magic : Magic} {k : Nat} {rule : Malformation}
      {commands : List Log.Event}
      (hmagic : Announces bytes magic)
      (hwhole : (CommandArea.ofImage bytes magic).limit ≤ bytes.length)
      (hk : k < (CommandArea.ofImage bytes magic).count)
      (hclear : (CommandArea.ofImage bytes magic).Clear k)
      (hviolation : (CommandArea.ofImage bytes magic).violation?
        ((CommandArea.ofImage bytes magic).offset k) = some rule)
      (hcommands : (CommandArea.ofImage bytes magic).ReportsFirst k
        commands) :
      Told order bytes (.error (.malformed rule)) [] commands
  | overrun {magic : Magic} {commands : List Log.Event}
      {before after : List Segment} {segment : Segment}
      {arrays : List (List Section)} {entries : List Section}
      (haccepted : Accepted bytes magic)
      (hcommands : (CommandArea.ofImage bytes magic).ReportsFirst
        (CommandArea.ofImage bytes magic).count commands)
      (hsegments :
        (ofCommands bytes magic).segments = before ++ segment :: after)
      (harrays : List.Forall₂
        (fun segment => segment.HasArray order bytes) before arrays)
      (hentries : segment.Lists order bytes entries)
      (hoverruns : segment.Overruns bytes.length entries.length) :
      Told order bytes
        (.error (.shortRead (segment.entryStart entries.length)
          segment.entrySize))
        (arrays.flatten ++ entries)
        (commands ++
          .image magic.order magic.width
              (ofCommands bytes magic).segments.length ::
            Log.ofArrays 0 (before.zip arrays ++ [(segment, entries)]))
  | built {magic : Magic} {commands : List Log.Event}
      {arrays : List (List Section)}
      (haccepted : Accepted bytes magic)
      (hcommands : (CommandArea.ofImage bytes magic).ReportsFirst
        (CommandArea.ofImage bytes magic).count commands)
      (harrays : List.Forall₂
        (fun segment => segment.HasArray order bytes)
        (ofCommands bytes magic).segments arrays) :
      Told order bytes
        (.ok (ofCommands bytes magic, ⟨arrays.flatten⟩))
        arrays.flatten
        (commands ++
          .image magic.order magic.width
              (ofCommands bytes magic).segments.length ::
            (Log.ofArrays 0 ((ofCommands bytes magic).segments.zip arrays) ++
              [.built arrays.flatten.length
                (ofCommands bytes magic).segments.length]))

variable {order : ByteOrder} {cursor : Nat} {bytes : Bytes}

theorem log_of_parse {image : Image} (hparse : parse bytes = .ok image) :
    log order cursor bytes =
      (read bytes).events ++
        (SectionTable.build (image.segments.map Segment.view)
          (.ofStream ⟨.ofBytes bytes, order, cursor⟩)).events := by
  rw [log, hparse]

theorem log_of_read (order : ByteOrder) (cursor : Nat) {failure : Error}
    {events : List Log.Event}
    (hread : read bytes = ⟨events, .error failure⟩) :
    log order cursor bytes = events ∧
      tabulate order cursor bytes = .error failure := by
  have hparse : parse bytes = .error failure := by rw [parse, hread]
  rw [log, tabulate, hparse, hread]
  exact ⟨List.append_nil _, rfl⟩

theorem Accepted.told {magic : Magic} (haccepted : Accepted bytes magic) :
    ∃ sections, Told order bytes (tabulate order cursor bytes) sections
      (log order cursor bytes) := by
  have hcommands :=
    CommandArea.reportsFirst_commands haccepted.whole haccepted.clear
  have hparse := haccepted.parse_eq
  have hmedium : (Stream.mk (.ofBytes bytes) order cursor).medium =
      .ofBytes bytes := rfl
  rw [log_of_parse hparse, tabulate_of_parse hparse, haccepted.read_eq]
  simp only [List.append_assoc, List.cons_append, List.nil_append]
  rcases Scan.segments_ofBytes
      (fun segment hmem => start_lt_of_parse hparse hmem) hmedium 0 with
    ⟨arrays, harrays, hnone, hsections, hreports⟩ |
      ⟨before, segment, after, arrays, entries, hsegments, harrays, hentries,
        hoverruns, hsome, hreports⟩
  · rw [SectionTable.build_of_ok hnone, hsections, hreports, List.length_map]
    exact ⟨_, .built haccepted hcommands harrays⟩
  · rw [SectionTable.build_of_error hsome, hreports]
    exact ⟨_, .overrun haccepted hcommands hsegments harrays hentries
      hoverruns⟩

theorem exists_told (order : ByteOrder) (cursor : Nat) (bytes : Bytes) :
    ∃ sections, Told order bytes (tabulate order cursor bytes) sections
      (log order cursor bytes) := by
  by_cases hheader : ∃ magic, Announces bytes magic ∧
      (CommandArea.ofImage bytes magic).limit ≤ bytes.length
  · obtain ⟨magic, hmagic, hwhole⟩ := hheader
    rcases CommandArea.clear_or_first_violation
        (CommandArea.ofImage bytes magic).count with
      hclear | ⟨k, hk, hclear, rule, hviolation⟩
    · exact Accepted.told ⟨hmagic, hwhole, hclear⟩
    · obtain ⟨hlog, hresult⟩ := log_of_read order cursor
        (read_of_violation hmagic hwhole hk hclear hviolation)
      rw [hlog, hresult]
      exact ⟨[], .malformed hmagic hwhole hk hclear hviolation
        (CommandArea.reportsFirst_commands hwhole hclear)⟩
  · obtain ⟨failure, hread⟩ := exists_read_of_unannounced hheader
    obtain ⟨hlog, hresult⟩ := log_of_read order cursor hread
    rw [hlog, hresult]
    exact ⟨[], .silent hheader⟩

namespace Told

variable {result : Except Error (Image × SectionTable)}
  {sections : List Section} {events : List Log.Event}

theorem filter_isSection (htold : Told order bytes result sections events) :
    events.filter Log.Event.isSection = sections.mapIdx .sectionRead := by
  have hsnd {segments : List Segment} {arrays : List (List Section)}
      (harrays : List.Forall₂ (fun segment => segment.HasArray order bytes)
        segments arrays) :
      (segments.zip arrays).map Prod.snd = arrays :=
    List.map_snd_zip harrays.length_eq.ge
  cases htold with
  | silent hnone => rfl
  | malformed _ _ _ _ _ hcommands => exact hcommands.filter_isSection
  | overrun _ hcommands _ harrays _ _ =>
      rw [List.filter_append, hcommands.filter_isSection, List.nil_append,
        List.filter_cons_of_neg Bool.false_ne_true,
        Log.filter_isSection_ofArrays, List.map_append, hsnd harrays]
      simp only [List.map_cons, List.map_nil, List.flatten_append,
        List.flatten_cons, List.flatten_nil, List.append_nil, Nat.zero_add]
  | built _ hcommands harrays =>
      rw [List.filter_append, hcommands.filter_isSection, List.nil_append,
        List.filter_cons_of_neg Bool.false_ne_true, List.filter_append,
        Log.filter_isSection_ofArrays, hsnd harrays]
      simp only [Nat.zero_add]
      exact List.append_nil _

theorem sections_eq {image : Image} {table : SectionTable}
    (htold : Told order bytes (.ok (image, table)) sections events) :
    table.sections = sections := by
  cases htold
  rfl

theorem image_mem_iff (htold : Told order bytes result sections events) :
    (∃ form width segments, .image form width segments ∈ events) ↔
      ∃ image, parse bytes = .ok image := by
  cases htold with
  | silent hnone =>
      obtain ⟨failure, hread⟩ := exists_read_of_unannounced hnone
      simp [parse, hread]
  | malformed hmagic hwhole hk hclear hviolation hcommands =>
      have hread := read_of_violation hmagic hwhole hk hclear hviolation
      refine iff_of_false ?_ (by simp [parse, hread])
      rintro ⟨form, width, segments, hmem⟩
      exact Bool.false_ne_true (hcommands.isCommand_of_mem hmem)
  | overrun haccepted _ _ _ _ _ =>
      exact iff_of_true
        ⟨_, _, _, List.mem_append_right _ List.mem_cons_self⟩
        ⟨_, haccepted.parse_eq⟩
  | built haccepted _ _ =>
      exact iff_of_true
        ⟨_, _, _, List.mem_append_right _ List.mem_cons_self⟩
        ⟨_, haccepted.parse_eq⟩

theorem built_mem_iff (htold : Told order bytes result sections events) :
    (∃ entries segments, .built entries segments ∈ events) ↔
      ∃ image table, result = .ok (image, table) := by
  cases htold with
  | silent hnone => simp
  | malformed _ _ _ _ _ hcommands =>
      refine iff_of_false ?_ (by simp)
      rintro ⟨entries, segments, hmem⟩
      exact Bool.false_ne_true (hcommands.isCommand_of_mem hmem)
  | overrun _ hcommands _ _ _ _ =>
      refine iff_of_false ?_ (by simp)
      rintro ⟨entries, segments, hmem⟩
      rcases List.mem_append.mp hmem with hcommand | hbehind
      · exact Bool.false_ne_true (hcommands.isCommand_of_mem hcommand)
      · rcases List.mem_cons.mp hbehind with himage | harray
        · cases himage
        · exact Bool.false_ne_true (Log.isArray_of_mem_ofArrays harray)
  | @built magic commands arrays _ _ _ =>
      have hlast : .built arrays.flatten.length
          (ofCommands bytes magic).segments.length ∈
            Log.ofArrays 0 ((ofCommands bytes magic).segments.zip arrays) ++
              [.built arrays.flatten.length
                (ofCommands bytes magic).segments.length] :=
        List.mem_append_right _ List.mem_cons_self
      exact iff_of_true
        ⟨_, _, List.mem_append_right _ (List.mem_cons_of_mem _ hlast)⟩
        ⟨_, _, rfl⟩

/-- The position of a short read can be found from the log: it is behind the
headers that are reported after the last array. -/
theorem position_eq {image : Image} {position wanted : Nat}
    (hparse : parse bytes = .ok image)
    (htold : Told order bytes (.error (.shortRead position wanted)) sections
      events) :
    ∃ earlier count width start later,
      events = earlier ++ .reading count width start :: later ∧
        (∀ event ∈ later, event.isSection = true) ∧
        position = start + wanted * later.length := by
  generalize hresult : Except.error (Error.shortRead position wanted) =
    result at htold
  cases htold with
  | silent hnone =>
      obtain ⟨failure, hread⟩ := exists_read_of_unannounced hnone
      rw [parse, hread] at hparse
      cases hparse
  | malformed _ _ _ _ _ _ => cases hresult
  | @overrun magic commands before _ segment arrays entries =>
      cases hresult
      obtain ⟨later, harrays, hsections, hlength⟩ :=
        Log.exists_ofArrays_concat 0 (before.zip arrays) segment entries
      refine ⟨commands ++ .image magic.order magic.width
        (ofCommands bytes magic).segments.length ::
          Log.ofArrays 0 (before.zip arrays), segment.sectionCount,
        segment.width, segment.position + segment.headerSize, later, ?_,
        hsections, ?_⟩
      · rw [harrays, List.append_assoc, List.cons_append]
      · rw [hlength, Nat.mul_comm]
        rfl
  | built _ _ _ => cases hresult

end Told

/-- The log tells every run, also one that failed: the commands and arrays as
far as the run came, the image if it was read, and the table if it was
built.  The section headers in it are numbered through, are the sections of
the table if there is one, and tell the position of a short read. -/
theorem log_tells_run (order : ByteOrder) (cursor : Nat) (bytes : Bytes) :
    let result := tabulate order cursor bytes
    let events := log order cursor bytes
    ((∃ form width segments, .image form width segments ∈ events) ↔
        ∃ image, parse bytes = .ok image) ∧
      ((∃ entries segments, .built entries segments ∈ events) ↔
        ∃ image table, result = .ok (image, table)) ∧
      (∀ image position wanted, parse bytes = .ok image →
        result = .error (.shortRead position wanted) →
          ∃ earlier count width start later,
            events = earlier ++ .reading count width start :: later ∧
              (∀ event ∈ later, event.isSection = true) ∧
              position = start + wanted * later.length) ∧
      ∃ sections, Told order bytes result sections events ∧
        (∀ image table, result = .ok (image, table) →
          table.sections = sections) ∧
        events.filter Log.Event.isSection =
          sections.mapIdx .sectionRead ∧
        (events.filter Log.Event.isSection).map Log.Event.message =
          sections.mapIdx fun i s =>
            "Section " ++ toString i ++ " -> " ++ s.display := by
  intro result events
  obtain ⟨sections, htold⟩ := exists_told order cursor bytes
  refine ⟨htold.image_mem_iff, htold.built_mem_iff, ?_, sections, htold, ?_,
    htold.filter_isSection, ?_⟩
  · intro image position wanted hparse hresult
    have hshort : Told order bytes (.error (.shortRead position wanted))
        sections events := hresult ▸ htold
    exact hshort.position_eq hparse
  · intro image table hresult
    have hok : Told order bytes (.ok (image, table)) sections events :=
      hresult ▸ htold
    exact hok.sections_eq
  · rw [htold.filter_isSection, List.mapIdx_eq_zipIdx_map,
      List.mapIdx_eq_zipIdx_map, List.map_map]
    rfl

/-- The second of two section headers is cut short: one is reported behind the
array that it belongs to. -/
theorem log_tells_run_cutShort :
    ∃ image, parse cutShort = .ok image ∧
      tabulate .little 0 cutShort = .error (.shortRead 152 68) ∧
      ∃ earlier count width start later,
        log .little 0 cutShort =
            earlier ++ .reading count width start :: later ∧
          (∀ event ∈ later, event.isSection = true) ∧
          152 = start + 68 * later.length := by
  have hparse : parse cutShort = .ok ⟨.little, .bits32,
      [⟨.blank, 0, 0, 0, 0, 0, 0, 2, 0, 28, .bits32⟩]⟩ := by
    decide +kernel
  have hresult : tabulate .little 0 cutShort =
      .error (.shortRead 152 68) := by
    decide +kernel
  have htells := log_tells_run .little 0 cutShort
  exact ⟨_, hparse, hresult, htells.2.2.1 _ _ _ hparse hresult⟩

end Image

end MachO
