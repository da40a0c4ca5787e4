import InvoiceApproval.Main
import InvoiceApproval.Proofs.Decimal.Readers
import InvoiceApproval.Proofs.Run
import InvoiceApproval.Server
import InvoiceApproval.Proofs.Decimal.Exactness
import InvoiceApproval.Proofs.Request.Amount
import InvoiceApproval.Proofs.Decimal.Written
import InvoiceApproval.Proofs.Json.Text
import InvoiceApproval.Proofs.Json.Layout
import InvoiceApproval.Proofs.Json.Grammar
import InvoiceApproval.Proofs.Json.RoundTrip
import InvoiceApproval.Proofs.Request.Body
import InvoiceApproval.Proofs.Request.Length
import InvoiceApproval.Proofs.Response
import InvoiceApproval.Proofs.FrontEnds
import InvoiceApproval.Proofs.Encoding
import InvoiceApproval.Proofs.Command.Readiness
import InvoiceApproval.Proofs.Command.ExitCodes
import InvoiceApproval.Proofs.Form
import InvoiceApproval.Proofs.Precedence
import InvoiceApproval.Proofs.Selection
import InvoiceApproval.Proofs.Threshold
import InvoiceApproval.Proofs.Catalog.Seed
import InvoiceApproval.Proofs.Catalog.Review
import InvoiceApproval.Proofs.Leaves
import InvoiceApproval.Proofs.Catalog.Faults
import InvoiceApproval.Proofs.Catalog.Strictness
import InvoiceApproval.Proofs.Catalog.Unresolved
import InvoiceApproval.Proofs.Settings.Layers
import InvoiceApproval.Proofs.Settings.Reads
import InvoiceApproval.Proofs.Settings.Loading
import InvoiceApproval.Proofs.Server.Answers
import InvoiceApproval.Proofs.Server.Markup
import InvoiceApproval.Proofs.Replay
import InvoiceApproval.Proofs.Toml.Tree
import InvoiceApproval.Proofs.Toml.NullFree
import InvoiceApproval.Proofs.Settings.Sources
import InvoiceApproval.Proofs.Settings.Interpolation
import InvoiceApproval.Proofs.Toml.Quoted
import InvoiceApproval.Proofs.Toml.Bare
import InvoiceApproval.Proofs.Settings.Substitution
import InvoiceApproval.Proofs.Stability
import InvoiceApproval.Proofs.Narrowing
import InvoiceApproval.Proofs.Satisfiable
import InvoiceApproval.Proofs.Command.Lines
import InvoiceApproval.Proofs.Command.Execution
import InvoiceApproval.Proofs.Condition.Inspection
import InvoiceApproval.Proofs.Condition.Complement
import InvoiceApproval.Proofs.Condition.Spelling
import InvoiceApproval.Proofs.Condition.RoundTrip
import InvoiceApproval.Proofs.Directory
import InvoiceApproval.Proofs.Settings.Placeholders
import InvoiceApproval.Proofs.Settings.Usable
import InvoiceApproval.Proofs.Text.Case
import InvoiceApproval.Proofs.DisplayName
import InvoiceApproval.Proofs.Stores
import InvoiceApproval.Proofs.Notifiers
