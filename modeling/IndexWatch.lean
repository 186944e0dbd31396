import IndexWatch.Main
import IndexWatch.Proofs.Simulation
import IndexWatch.Proofs.KeyMap
import IndexWatch.Proofs.Analytics
import IndexWatch.Proofs.Metrics
import IndexWatch.Proofs.Selection
import IndexWatch.Proofs.Status.Store
import IndexWatch.Proofs.Status.Unmount
import IndexWatch.Proofs.Status.History
import IndexWatch.Proofs.Status.CancelFlag
import IndexWatch.Proofs.Status.Presentation
import IndexWatch.Proofs.Status.Ledger
import IndexWatch.Proofs.Status.Outstanding
import IndexWatch.Proofs.Status.Pending
import IndexWatch.Proofs.Status.Reason
import IndexWatch.Proofs.Status.PollLoop
import IndexWatch.Proofs.Status.Accounts
import IndexWatch.Proofs.Status.Turn
import IndexWatch.Proofs.Status.Cadence
import IndexWatch.Proofs.Status.Arrangement
import IndexWatch.Proofs.Status.Reporting
import IndexWatch.Proofs.Status.Panel
import IndexWatch.Proofs.Status.CancelCall
import IndexWatch.Proofs.Status.Startup
import IndexWatch.Proofs.Text.Numeral
import IndexWatch.Proofs.Text.Pieces
import IndexWatch.Proofs.Text.Wire
import IndexWatch.Proofs.Unicode.Capitals
import IndexWatch.Proofs.Json.Lexemes
import IndexWatch.Proofs.Json.Reading
import IndexWatch.Proofs.Json.Results
import IndexWatch.Proofs.Json.Grammar
import IndexWatch.Proofs.Json.Objects
import IndexWatch.Proofs.Json.Values
import IndexWatch.Proofs.Json.Layout
import IndexWatch.Proofs.Job.RoundTrip
import IndexWatch.Proofs.Job.Members
import IndexWatch.Proofs.Job.Rearrangement
import IndexWatch.Proofs.Job.Listing
import IndexWatch.Proofs.Job.NewJob
import IndexWatch.Proofs.Url.Web
import IndexWatch.Proofs.Url.Growth
import IndexWatch.Proofs.Url.Name
import IndexWatch.Proofs.Url.Address
import IndexWatch.Proofs.Url.Host
import IndexWatch.Proofs.Url.Authority
import IndexWatch.Proofs.Client.Connection
import IndexWatch.Proofs.Client.Endpoint
import IndexWatch.Proofs.Client.Listing
import IndexWatch.Proofs.Client.Reach
import IndexWatch.Proofs.Client.Verdict
import IndexWatch.Proofs.Client.SecondFactor
import IndexWatch.Proofs.Client.Address
import IndexWatch.Proofs.Client.Token
import IndexWatch.Proofs.CommandLine.FirstRefresh
import IndexWatch.Proofs.CommandLine.Listing
import IndexWatch.Proofs.CommandLine.Creation
import IndexWatch.Proofs.CommandLine.Settings
import IndexWatch.Proofs.CommandLine.Secrets
