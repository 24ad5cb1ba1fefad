import EvaluationBrowser.Binary64.Spelling
import EvaluationBrowser.Main
import EvaluationBrowser.Site.App
import EvaluationBrowser.Fetch.History
import EvaluationBrowser.Proofs.Fetch.LatestRequest
import EvaluationBrowser.Proofs.Site.Session
import EvaluationBrowser.Grid.Walk
import EvaluationBrowser.Proofs.Grid.Order
import EvaluationBrowser.Proofs.Grid.Sorting
import EvaluationBrowser.Proofs.Grid.Shown
import EvaluationBrowser.Proofs.Grid.Walk
import EvaluationBrowser.Proofs.Binary64.Magnitude
import EvaluationBrowser.Proofs.Binary64.Nearest
import EvaluationBrowser.Proofs.Binary64.Roundoff
import EvaluationBrowser.Proofs.Json.Scale
import EvaluationBrowser.Proofs.Binary64.Grid
import EvaluationBrowser.Proofs.Binary64.Shortest
import EvaluationBrowser.Proofs.Binary64.Positional
import EvaluationBrowser.Proofs.Json.Literal
import EvaluationBrowser.Proofs.Json.Reread
import EvaluationBrowser.Proofs.Json.Token
import EvaluationBrowser.Proofs.Json.Reader
import EvaluationBrowser.Proofs.Setting.Format
import EvaluationBrowser.Proofs.Setting.Reread
import EvaluationBrowser.Proofs.Fetch.RouteRequests
import EvaluationBrowser.Proofs.Site.Requests
import EvaluationBrowser.Proofs.Site.Interleaving
import EvaluationBrowser.CommandLine.Gestures
import EvaluationBrowser.Proofs.CommandLine.Gestures
import EvaluationBrowser.Proofs.Json.Grammar
import EvaluationBrowser.Proofs.Json.Meaning
import EvaluationBrowser.Proofs.Setting.Decoding
import EvaluationBrowser.Proofs.Text.Ends
import EvaluationBrowser.Proofs.Backend.Host
import EvaluationBrowser.Report.Records
import EvaluationBrowser.Proofs.Grid.Reachable
import EvaluationBrowser.Proofs.Report.Records
import EvaluationBrowser.Proofs.Report.LineBreaks
import EvaluationBrowser.Proofs.Report.Table
import EvaluationBrowser.Proofs.Report.Formats
import EvaluationBrowser.Proofs.Checks
import EvaluationBrowser.Proofs.Site.Agreement
import EvaluationBrowser.Proofs.CommandLine.Query
import EvaluationBrowser.Proofs.CommandLine.Run
import EvaluationBrowser.Site.LiveGrid
import EvaluationBrowser.Site.Reading
import EvaluationBrowser.Proofs.Site.LiveGrid
import EvaluationBrowser.Proofs.Site.GridHtml
import EvaluationBrowser.Proofs.Site.GridDisplay
import EvaluationBrowser.Proofs.Text.Lowercase
import EvaluationBrowser.Proofs.Grid.Filter
import EvaluationBrowser.Grid.Word
import EvaluationBrowser.Proofs.Grid.Paging
import EvaluationBrowser.Proofs.Binary64.Value
import EvaluationBrowser.Proofs.Wording
import EvaluationBrowser.Proofs.Setting.Verdict
import EvaluationBrowser.Proofs.Backend.Reply
import EvaluationBrowser.Proofs.Setting.RoundTrip
import EvaluationBrowser.Proofs.CommandLine.Options
import EvaluationBrowser.Proofs.Report.Layout
import EvaluationBrowser.Proofs.Site.NamePath
import EvaluationBrowser.Proofs.Backend.SettingsUrl
import EvaluationBrowser.Proofs.Site.Opening
import EvaluationBrowser.Proofs.Grid.Ranking
