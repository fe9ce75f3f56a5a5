import MachO.Main
import MachO.Proofs.Places
import MachO.Proofs.RoundTrip
import MachO.Proofs.Session.Answers
import MachO.Proofs.Session.History
import MachO.Proofs.Inspection
import MachO.Proofs.Truncation
import MachO.Proofs.Contents
import MachO.Proofs.TextCut
import MachO.Proofs.Lookup
import MachO.Proofs.Hexdump
import MachO.Proofs.Halts
import MachO.Proofs.Trace
import MachO.Proofs.Printing
import MachO.Proofs.Counts
import MachO.Proofs.Encodings
