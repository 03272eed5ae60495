import AssignLang.Disk
import AssignLang.Main
import AssignLang.Proofs.Program.Location
import AssignLang.Proofs.Token.Interleaving
import AssignLang.Proofs.Command.Collection
import AssignLang.Proofs.Program.Delimiter
import AssignLang.Proofs.EntryPoints
import AssignLang.Proofs.Program.FirstFailure
import AssignLang.Proofs.Store.History
import AssignLang.Proofs.Token.Literal
import AssignLang.Proofs.Token.RoundTrip
import AssignLang.Proofs.Program.Layout
import AssignLang.Proofs.Report
import AssignLang.Proofs.Report.Program
import AssignLang.Proofs.Program.Cutoff
import AssignLang.Proofs.Program.LineEnds
import AssignLang.Proofs.Program.Commutation
import AssignLang.Proofs.Command.CollectedLines
import AssignLang.Proofs.Rendering
import AssignLang.Proofs.Token.Interning
import AssignLang.Proofs.Program.Progress
import AssignLang.Proofs.Token.Counters
