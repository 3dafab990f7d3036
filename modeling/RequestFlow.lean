import RequestFlow.Main
import RequestFlow.Proofs.Report.Reconstruction
import RequestFlow.Proofs.Run.Exchange
import RequestFlow.Proofs.Run.Grammar
import RequestFlow.Proofs.Run.Policy
import RequestFlow.Proofs.Run.VariableLog
import RequestFlow.Proofs.Transport.Routing
import RequestFlow.Proofs.Transport.Table
import RequestFlow.Report.Encoding
import RequestFlow.Proofs.Run.Progress
import RequestFlow.Proofs.Validation.Checked
import RequestFlow.Proofs.Validation.References
import RequestFlow.Proofs.Report.Verdict
import RequestFlow.Proofs.Run.UnusedVariables
import RequestFlow.Proofs.Validation.Credentials
import RequestFlow.Proofs.Acquisition.OpenAtOnce
import RequestFlow.Proofs.Run.PolicyComparison
import RequestFlow.Proofs.Run.CredentialPointer
import RequestFlow.Proofs.Document.RoundTrip
import RequestFlow.Proofs.Document.Record
import RequestFlow.Proofs.Bundle.RoundTrip
import RequestFlow.Proofs.Template.Segmentation
import RequestFlow.Proofs.Variable.Reporting
import RequestFlow.Proofs.Variable.Replacement
import RequestFlow.Proofs.Run.MissingTokens
import RequestFlow.Proofs.Text.Utf8
import RequestFlow.Proofs.Url.Percent
import RequestFlow.Proofs.Http.Headers
import RequestFlow.Proofs.Request.Placement
import RequestFlow.Proofs.Request.Query
import RequestFlow.Proofs.Request.Headers
import RequestFlow.Proofs.Request.PlaceholderWalk
import RequestFlow.Proofs.Request.Placeholder
import RequestFlow.Proofs.Url.Path
import RequestFlow.Proofs.Url.Segment
import RequestFlow.Proofs.Request.PathValue
import RequestFlow.Proofs.Assignment.Independence
import RequestFlow.Proofs.Json.Pointer
import RequestFlow.Proofs.Text.Decimal
import RequestFlow.Proofs.Json.Evaluation
import RequestFlow.Proofs.Validation.Assignments
import RequestFlow.Proofs.Assignment.Cookie
import RequestFlow.Proofs.Request.Cookies
import RequestFlow.Proofs.Request.Body
import RequestFlow.Proofs.Variable.Precedence
import RequestFlow.Proofs.Command.Inputs
import RequestFlow.Proofs.Command.EnvFile
import RequestFlow.Proofs.Report.Cursor
import RequestFlow.Proofs.Report.Growth
import RequestFlow.Proofs.Transport.Network
