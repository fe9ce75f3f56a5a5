import MachO.CommandLine.Arguments
import MachO.CommandLine.Directory
import MachO.Hexdump
import MachO.Image
import MachO.Log.Filter
import MachO.Log.Line
import MachO.Table

/-!
# Reports

What the tool prints for an input file, and the code it ends with.  All that
can fail is done before anything is printed: a run either prints what was
asked for, or says why it cannot and prints nothing else.  The one exception
is a hex dump whose row labels leave the 64-bit range, which breaks off behind
the description of its section.
-/

namespace MachO.CommandLine

open Text

inductive Failure
  | filter (reason : Log.FilterError)
  | noFile (path : String) (reason : PathError)
  /-- The input is a folder, which has no contents to look at. -/
  | folder
  | image (path : String) (reason : Error)
  | table (reason : Error)
  /-- The wanted section is not given by two names. -/
  | target (text : String)
  | noSection (text : String)
  /-- The section that was found has no place in its table. -/
  | indexOutOfRange
  | contents (reason : Error)
  deriving DecidableEq

namespace Failure

def headline : Failure → String
  | filter _ => "invalid log level"
  | noFile path _ => "failed to open " ++ path
  | folder => "No such device (os error 19)"
  | image path _ => "failed to parse " ++ path
  | table _ => "failed to read section headers"
  | target text => "expected SEGMENT,SECTION, got " ++ Quoted.encode text
  | noSection text => "no section named " ++ text
  | indexOutOfRange => "section index out of range"
  | contents reason => reason.message

def reasons : Failure → List String
  | filter reason => reason.reasons
  | noFile _ reason => [reason.message]
  | image _ reason => reason.message :: reason.reason?.toList
  | table reason => reason.message :: reason.reason?.toList
  | contents reason => reason.reason?.toList
  | _ => []

/-- A text behind a heading; its further lines begin under its first. -/
def hanging (heading text : String) : String :=
  let margin := String.ofList (List.replicate heading.length ' ')
  let unbroken (c : Char) := if c = '\n' then "\n" ++ margin else c.toString
  heading ++ String.join (text.toList.map unbroken) ++ "\n"

/-- The reasons as a block of lines, numbered if there are several. -/
def explanation : List String → String
  | [] => ""
  | [reason] => "\nCaused by:\n" ++ hanging "    " reason
  | reasons =>
      "\nCaused by:\n" ++ String.join (reasons.mapIdx fun index reason =>
        hanging ("    " ++ toString index ++ ": ") reason)

def display (failure : Failure) : String :=
  "Error: " ++ failure.headline ++ "\n" ++ explanation failure.reasons

end Failure

inductive Ending
  | printed (text : String)
  | failed (failure : Failure)
  | broken (text : String)
  deriving DecidableEq

structure Run where
  events : List Log.Event
  ending : Ending

/-- The text that a wanted section is named by, cut at its first comma. -/
def cutTarget? (text : String) : Option (String × String) :=
  let chars := text.toList
  if chars.contains ',' then
    some (String.ofList (chars.takeWhile (· ≠ ',')),
      String.ofList ((chars.dropWhile (· ≠ ',')).drop 1))
  else
    none

def dumpSection (s : Section) (contents : Bytes) : Ending :=
  let description := s.verbose ++ "\n"
  match Hexdump.lines s.address contents with
  | .error _ => .broken description
  | .ok lines => .printed (description ++ String.join (lines.map (· ++ "\n")))

def dump (table : SectionTable) (shared : SharedStream) (target : String) :
    Ending :=
  match cutTarget? target with
  | none => .failed (.target target)
  | some (segmentName, sectionName) =>
      match (table.find? segmentName sectionName).bind fun index =>
          (table.get? index).map (index, ·) with
      | none => .failed (.noSection target)
      | some (index, s) =>
          match (table.contents index shared).1 with
          | .error reason => .failed (.contents reason)
          | .ok none => .failed .indexOutOfRange
          | .ok (some contents) => dumpSection s contents

def listing (table : SectionTable) : String :=
  String.join (table.sections.mapIdx fun index s =>
    "Section " ++ toString index ++ ":\n" ++ s.verbose ++ "\n\n")

def present (arguments : Arguments) (table : SectionTable)
    (shared : SharedStream) : Ending :=
  match arguments.dump? with
  | some target => dump table shared target
  | none =>
      .printed (if arguments.verbose then listing table else table.display)

/-- Reads the image in a file, builds its table and prints what is asked
for. -/
def inspect (arguments : Arguments) (bytes : Bytes) : Run :=
  let reading := Image.read bytes
  match reading.result with
  | .error reason => ⟨reading.events, .failed (.image arguments.input reason)⟩
  | .ok image =>
      let stream := Stream.start image.order (Medium.ofBytes bytes)
      let building :=
        SectionTable.build (image.segments.map Segment.view) (.ofStream stream)
      let events := reading.events ++ building.events
      match building.result with
      | .error reason => ⟨events, .failed (.table reason)⟩
      | .ok table => ⟨events, present arguments table building.shared⟩

/-- What is printed, and the code of the end. -/
structure Report where
  code : Nat
  output : String
  /-- The log and the error. -/
  complaints : String
  deriving DecidableEq

def Run.report (filter : Log.Filter) (run : Run) : Report :=
  let log := String.join ((run.events.filter filter.shows).map Log.Event.line)
  match run.ending with
  | .printed text => ⟨0, text, log⟩
  | .failed failure => ⟨1, "", log ++ failure.display⟩
  | .broken text => ⟨101, text, log⟩

def report (arguments : Arguments) (found : Found) : Report :=
  match Log.Filter.parse arguments.logLevel with
  | .error .tornCharacter => ⟨101, "", ""⟩
  | .error reason => ⟨1, "", (Failure.filter reason).display⟩
  | .ok filter =>
      match found with
      | .nothing reason =>
          Run.report filter ⟨[], .failed (.noFile arguments.input reason)⟩
      | .folder => Run.report filter ⟨[], .failed .folder⟩
      | .file bytes => (inspect arguments bytes).report filter

def versionText : String := "sectab 0.1.0"

def usageText : String :=
  "Usage: sectab [-v] [--dump SEGMENT,SECTION] [--log-level LEVEL] INPUT"

def Usage.report (usage : Usage) : Report :=
  match usage with
  | .version => ⟨usage.code, versionText ++ "\n", ""⟩
  | .help => ⟨usage.code, usageText ++ "\n", ""⟩
  | _ => ⟨usage.code, "", usageText ++ "\n"⟩

def reportOn (find : String → Found) (words : List String) : Report :=
  match Arguments.parse words with
  | .error usage => usage.report
  | .ok arguments => report arguments (find arguments.input)

end MachO.CommandLine
