import Paydesk.Amount
import Paydesk.Binary64.Basic
import Paydesk.Binary64.OfDecimal
import Paydesk.Binary64.Shortest
import Paydesk.Catalog
import Paydesk.Catalog.Table
import Paydesk.Decimal.Arithmetic
import Paydesk.Decimal.Basic
import Paydesk.Decimal.Quotient
import Paydesk.Decimal.Rounding
import Paydesk.Decimal.Text
import Paydesk.Desk.Basic
import Paydesk.Desk.World
import Paydesk.Dict
import Paydesk.Digest.Sha256
import Paydesk.Event.Broker
import Paydesk.Event.Channel
import Paydesk.Event.Hooks
import Paydesk.Exchange.Rate
import Paydesk.Exchange.RateHistory
import Paydesk.Exchange.RateTable
import Paydesk.Flow.Basic
import Paydesk.Flow.Call
import Paydesk.Flow.CreatePayment
import Paydesk.Flow.Error
import Paydesk.Flow.Fees
import Paydesk.Flow.Guard
import Paydesk.Flow.Intake
import Paydesk.Flow.NewOrder
import Paydesk.Flow.Notify
import Paydesk.Json.Basic
import Paydesk.Json.Number
import Paydesk.Json.Reader
import Paydesk.Json.Record
import Paydesk.Json.Writer
import Paydesk.Network.Address
import Paydesk.Network.Location
import Paydesk.Order.Basic
import Paydesk.Order.Document
import Paydesk.Order.Event
import Paydesk.Order.Fee
import Paydesk.Order.Params
import Paydesk.Order.Payer
import Paydesk.Order.Status
import Paydesk.Order.Transaction
import Paydesk.Order.View
import Paydesk.Payment.Handler
import Paydesk.Pricing.Commission
import Paydesk.Pricing.Vat
import Paydesk.Proofs.Binary64.Decimal
import Paydesk.Proofs.Binary64.Digits
import Paydesk.Proofs.Binary64.Range
import Paydesk.Proofs.Binary64.Rounding
import Paydesk.Proofs.Binary64.Shortest
import Paydesk.Proofs.Decimal.Average
import Paydesk.Proofs.Decimal.Cents
import Paydesk.Proofs.Decimal.Fraction
import Paydesk.Proofs.Decimal.Minor
import Paydesk.Proofs.Decimal.MinorUnits
import Paydesk.Proofs.Decimal.Nearest
import Paydesk.Proofs.Decimal.Numeral
import Paydesk.Proofs.Decimal.Product
import Paydesk.Proofs.Decimal.Quotient
import Paydesk.Proofs.Decimal.Reading
import Paydesk.Proofs.Decimal.Scientific
import Paydesk.Proofs.Decimal.Sum
import Paydesk.Proofs.Decimal.Text
import Paydesk.Proofs.Decimal.Units
import Paydesk.Proofs.Decimal.Value
import Paydesk.Proofs.Desk.Checks
import Paydesk.Proofs.Desk.Pairs
import Paydesk.Proofs.Desk.Tables
import Paydesk.Proofs.Dict
import Paydesk.Proofs.Exchange.Agreement
import Paydesk.Proofs.Exchange.Conversion
import Paydesk.Proofs.Exchange.RoundTrip
import Paydesk.Proofs.Flow.Closing
import Paydesk.Proofs.Flow.Course
import Paydesk.Proofs.Flow.Failure
import Paydesk.Proofs.Flow.Finding
import Paydesk.Proofs.Flow.Job
import Paydesk.Proofs.Flow.Lookup
import Paydesk.Proofs.Flow.Succession
import Paydesk.Proofs.Json.Decimal
import Paydesk.Proofs.Json.Double
import Paydesk.Proofs.Json.Legible
import Paydesk.Proofs.Json.Number
import Paydesk.Proofs.Json.Record
import Paydesk.Proofs.Json.Text
import Paydesk.Proofs.Network.Address
import Paydesk.Proofs.Notice.Finality
import Paydesk.Proofs.Notice.Settlement
import Paydesk.Proofs.Office.Basic
import Paydesk.Proofs.Office.ClientIds
import Paydesk.Proofs.Office.Life
import Paydesk.Proofs.Office.Price
import Paydesk.Proofs.Office.Versions
import Paydesk.Proofs.Order.Capacity
import Paydesk.Proofs.Order.Document
import Paydesk.Proofs.Order.Equality
import Paydesk.Proofs.Order.Numbers
import Paydesk.Proofs.Order.Passthrough
import Paydesk.Proofs.Pricing.Conservation
import Paydesk.Proofs.Pricing.Fair
import Paydesk.Proofs.Query.Condition
import Paydesk.Proofs.Query.Meaning
import Paydesk.Proofs.Query.Modes
import Paydesk.Proofs.Query.Pages
import Paydesk.Proofs.Query.Sort
import Paydesk.Proofs.Query.Verbatim
import Paydesk.Proofs.Report.Buckets
import Paydesk.Proofs.Report.Days
import Paydesk.Proofs.Report.Exact
import Paydesk.Proofs.Report.Net
import Paydesk.Proofs.Report.Payment
import Paydesk.Proofs.Report.Sequence
import Paydesk.Proofs.Report.Totals
import Paydesk.Proofs.Report.Units
import Paydesk.Proofs.Request.Intake
import Paydesk.Proofs.Request.LetterCase
import Paydesk.Proofs.Request.Rules
import Paydesk.Proofs.Request.Signature
import Paydesk.Proofs.Request.WebAddress
import Paydesk.Proofs.Store.Amounts
import Paydesk.Proofs.Store.Changes
import Paydesk.Proofs.Store.Pattern
import Paydesk.Proofs.Store.Refinement
import Paydesk.Proofs.Store.Reports
import Paydesk.Proofs.Store.Search
import Paydesk.Proofs.Store.Selection
import Paydesk.Proofs.Store.Serve
import Paydesk.Proofs.Store.Survival
import Paydesk.Proofs.Store.Timing
import Paydesk.Proofs.Text.Ascii
import Paydesk.Proofs.Text.Digits
import Paydesk.Proofs.Text.Fold
import Paydesk.Proofs.Text.Sigma
import Paydesk.Proofs.Time.Calendar
import Paydesk.Proofs.Time.Days
import Paydesk.Proofs.Time.Millis
import Paydesk.Proofs.Time.Text
import Paydesk.Query.Condition
import Paydesk.Query.Document
import Paydesk.Query.Envelope
import Paydesk.Query.Field
import Paydesk.Query.Page
import Paydesk.Query.Sort
import Paydesk.Report.Figures
import Paydesk.Report.Merchant
import Paydesk.Report.Net
import Paydesk.Report.Period
import Paydesk.Request.Basic
import Paydesk.Request.Format
import Paydesk.Request.Signature
import Paydesk.Secret
import Paydesk.Settings
import Paydesk.Simulation.FaultyRates
import Paydesk.Simulation.FaultyStore
import Paydesk.Simulation.Outage
import Paydesk.Simulation.Run
import Paydesk.Simulation.Script
import Paydesk.Store.Basic
import Paydesk.Store.Cell
import Paydesk.Store.Error
import Paydesk.Store.Literal
import Paydesk.Store.Memory
import Paydesk.Store.Pattern
import Paydesk.Store.Row
import Paydesk.Store.Table
import Paydesk.Store.Truth
import Paydesk.Text.Ascii
import Paydesk.Text.Blank
import Paydesk.Text.CodeRange
import Paydesk.Text.DecimalDigit
import Paydesk.Text.Fold
import Paydesk.Text.Hex
import Paydesk.Text.Hidden
import Paydesk.Text.Integer
import Paydesk.Text.LetterCase
import Paydesk.Text.Quoted
import Paydesk.Time.Calendar
import Paydesk.Time.Instant
import Paydesk.Time.Rfc3339
