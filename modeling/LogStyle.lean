import LogStyle.Main
import LogStyle.Preview.Fields
import LogStyle.Proofs.Formatter.Carry
import LogStyle.Proofs.Formatter.Direct
import LogStyle.Proofs.Formatter.Readable
import LogStyle.Proofs.Formatter.Reset
import LogStyle.Proofs.Formatter.Faithful
import LogStyle.Proofs.Formatter.Colorless
import LogStyle.Proofs.Terminal.Program
import LogStyle.Proofs.Terminal.Restore
import LogStyle.Proofs.Theme.ClosedForm
import LogStyle.Proofs.Theme.Decoration
import LogStyle.Proofs.Theme.Failure
import LogStyle.Proofs.Theme.Validated
import LogStyle.Proofs.Program.Concat
import LogStyle.Proofs.Conditional.History
import LogStyle.Proofs.Host.Header
import LogStyle.Proofs.Program.Misuse
import LogStyle.Proofs.Program.Directives
import LogStyle.Proofs.Theme.Trailer
import LogStyle.Proofs.Formatter.WayBack
import LogStyle.Proofs.Conditional.Numbering
import LogStyle.Proofs.Formatter.Slot
import LogStyle.Proofs.Palette.Lookup
import LogStyle.Proofs.Program.Spans
import LogStyle.Proofs.Template.Lossless
import LogStyle.Proofs.Preview.Answer
import LogStyle.Proofs.Formatter.Calls
import LogStyle.Proofs.Host.Layout
import LogStyle.Proofs.Host.Target
import LogStyle.Proofs.Host.Fields
import LogStyle.Proofs.Host.Outlet
import LogStyle.Proofs.Program.Listing
import LogStyle.Proofs.Preview.CommandLine
import LogStyle.Proofs.Preview.Fields
import LogStyle.Proofs.Settings
import LogStyle.Proofs.Yaml.Quoted
import LogStyle.Proofs.Yaml.Scalar
