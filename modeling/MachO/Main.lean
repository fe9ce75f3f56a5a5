import MachO.CommandLine.Report

/-!
# The tool

Reads the input file that the arguments name, prints the report on it and
ends with its code.
-/

namespace MachO.CommandLine

def look (path : String) : IO Found := do
  try
    let contents ← IO.FS.readBinFile path
    return .file contents.toList
  catch failure =>
    match failure with
    | .inappropriateType _ 20 _ => return .nothing .notFolder
    | .inappropriateType .. => return .folder
    | .invalidArgument .. => return .nothing .nameTooLong
    | _ => return .nothing .missing

def lookForInput (words : List String) : IO Found :=
  match Arguments.parse words with
  | .ok arguments => look arguments.input
  | .error _ => return .nothing .missing

end MachO.CommandLine

open MachO.CommandLine in
def main (words : List String) : IO UInt32 := do
  let found ← lookForInput words
  let report := reportOn (fun _ => found) words
  IO.print report.output
  IO.eprint report.complaints
  return UInt32.ofNat report.code
