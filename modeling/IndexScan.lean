import IndexScan.Directive.Fault
import IndexScan.Main
import IndexScan.Scan.Observed
import IndexScan.Sequence.Pool
import IndexScan.Settings.Session
import IndexScan.Value
import IndexScan.Proofs.Command.Changing
import IndexScan.Proofs.Command.Previewing
import IndexScan.Proofs.Directive.Grammar
import IndexScan.Proofs.Draw.Variety
import IndexScan.Proofs.Sequence.Sharing
import IndexScan.Proofs.Command.Faithful
import IndexScan.Proofs.Settings.Layering
import IndexScan.Proofs.Console.Tagged
import IndexScan.Proofs.Json.Limits
import IndexScan.Proofs.Settings.Seeds
import IndexScan.Proofs.Text.Casing
import IndexScan.Proofs.Command.History
import IndexScan.Proofs.Yaml.Cursor
import IndexScan.Proofs.Yaml.Escapes
import IndexScan.Proofs.Yaml.Plain
import IndexScan.Proofs.Yaml.Tokens
import IndexScan.Proofs.Yaml.Nodes
import IndexScan.Proofs.Yaml.Values
import IndexScan.Proofs.Yaml.Scalars
import IndexScan.Proofs.Yaml.Printed
import IndexScan.Proofs.Profile.RoundTrip
import IndexScan.Proofs.Directive.Display
import IndexScan.Proofs.Sequence.OneShot
import IndexScan.Proofs.Console.Escaped
import IndexScan.Proofs.Command.Agreement
import IndexScan.Proofs.Command.Keeping
import IndexScan.Proofs.Settings.InForce
import IndexScan.Proofs.Scan.Branches
import IndexScan.Proofs.Command.Judging
import IndexScan.Proofs.Scan.Hits
import IndexScan.Proofs.Scan.Failing
import IndexScan.Proofs.Scan.Logging
import IndexScan.Proofs.Scan.Stateless
import IndexScan.Proofs.Scan.AnyOrder
import IndexScan.Proofs.Settings.Safekeeping
import IndexScan.Proofs.Profile.Validation
import IndexScan.Proofs.Index.Boundary
import IndexScan.Proofs.Mode.Order
import IndexScan.Proofs.Command.Nested
import IndexScan.Proofs.Report.Literal
import IndexScan.Proofs.Directive.Causes
import IndexScan.Proofs.Command.Readers
import IndexScan.Proofs.Command.Verdicts
