import Lookback.Billing.Catalog
import Lookback.Billing.Invoice
import Lookback.Billing.Period
import Lookback.Billing.PeriodName
import Lookback.Billing.Usage
import Lookback.Billing.Wire
import Lookback.Calendar.Date
import Lookback.Calendar.Month
import Lookback.Calendar.Printing
import Lookback.Calendar.Reading
import Lookback.Calendar.Timestamp
import Lookback.Environment.Basic
import Lookback.Environment.File
import Lookback.Environment.Line
import Lookback.Environment.Settings
import Lookback.Environment.Value
import Lookback.Identifier.Uuid
import Lookback.Identifier.UuidText
import Lookback.Json.Codec
import Lookback.Json.Error
import Lookback.Json.Numeral
import Lookback.Json.Record
import Lookback.Json.Skip
import Lookback.Json.Text
import Lookback.Log.Event
import Lookback.Log.Filter
import Lookback.Log.Pattern.Atom
import Lookback.Log.Pattern.Basic
import Lookback.Log.Pattern.Brackets
import Lookback.Number.Layout
import Lookback.Number.Shortest
import Lookback.Settings
import Lookback.SortedSet
import Lookback.Text.Alphanumeric
import Lookback.Text.Blank
import Lookback.Text.Bytes
import Lookback.Text.Capital
import Lookback.Text.Decimal
import Lookback.Text.Hex
import Lookback.Text.Hidden
import Lookback.Text.Quoted
import Lookback.Text.Ranges
import Lookback.Window.Error
import Lookback.Window.Event
import Lookback.Window.Fetch
import Lookback.Window.Read
import Lookback.Window.Session
import Lookback.Window.Start
import Lookback.Window.Store
import Lookback.Window.Wire
import Lookback.Proofs.Billing.Catalog
import Lookback.Proofs.Billing.Dictionary
import Lookback.Proofs.Billing.Distance
import Lookback.Proofs.Billing.Loading
import Lookback.Proofs.Billing.Moves
import Lookback.Proofs.Billing.Multiples
import Lookback.Proofs.Billing.Order
import Lookback.Proofs.Billing.Return
import Lookback.Proofs.Billing.Spelling
import Lookback.Proofs.Billing.Steps
import Lookback.Proofs.Billing.Wire
import Lookback.Proofs.Calendar.Order
import Lookback.Proofs.Calendar.Text
import Lookback.Proofs.Identifier.Text
import Lookback.Proofs.Json.Elements
import Lookback.Proofs.Json.Length
import Lookback.Proofs.Json.Mapped
import Lookback.Proofs.Json.Record
import Lookback.Proofs.Json.RoundTrip
import Lookback.Proofs.SortedSet
import Lookback.Proofs.Text.Blank
import Lookback.Proofs.Text.Capital
import Lookback.Proofs.Window.Acts
import Lookback.Proofs.Window.Anomalies
import Lookback.Proofs.Window.Boundaries
import Lookback.Proofs.Window.Clients
import Lookback.Proofs.Window.Deletion
import Lookback.Proofs.Window.Distance
import Lookback.Proofs.Window.Earliest
import Lookback.Proofs.Window.Failure
import Lookback.Proofs.Window.Fetch
import Lookback.Proofs.Window.History
import Lookback.Proofs.Window.Isolation
import Lookback.Proofs.Window.Joint
import Lookback.Proofs.Window.Log
import Lookback.Proofs.Window.Narrowing
import Lookback.Proofs.Window.Order
import Lookback.Proofs.Window.Progress
import Lookback.Proofs.Window.Read
import Lookback.Proofs.Window.Relevance
import Lookback.Proofs.Window.Reordering
import Lookback.Proofs.Window.Reports
import Lookback.Proofs.Window.Scan
import Lookback.Proofs.Window.Slack
import Lookback.Proofs.Window.Start
import Lookback.Proofs.Window.Wire
import Lookback.Proofs.Settings.Integer
import Lookback.Proofs.Environment.Line
import Lookback.Proofs.Environment.Precedence
import Lookback.Proofs.Settings.Overrides
import Lookback.Proofs.Environment.Nearest
