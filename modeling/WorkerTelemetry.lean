import WorkerTelemetry.Activity.Chain
import WorkerTelemetry.Activity.Error
import WorkerTelemetry.Activity.Executor
import WorkerTelemetry.Activity.Info
import WorkerTelemetry.Activity.Metrics
import WorkerTelemetry.Activity.Outcome
import WorkerTelemetry.Activity.Plan
import WorkerTelemetry.Activity.Stock
import WorkerTelemetry.CommandLine
import WorkerTelemetry.Config.Resolve
import WorkerTelemetry.Config.Schema
import WorkerTelemetry.Config.Validation
import WorkerTelemetry.Decimal.Binary64
import WorkerTelemetry.Decimal.Layout
import WorkerTelemetry.Decimal.Numeral
import WorkerTelemetry.Decimal.Shortest
import WorkerTelemetry.Duration
import WorkerTelemetry.Files
import WorkerTelemetry.Http.Request
import WorkerTelemetry.Http.Route
import WorkerTelemetry.Http.Server
import WorkerTelemetry.Json.Basic
import WorkerTelemetry.Json.Document
import WorkerTelemetry.Json.Inspect
import WorkerTelemetry.Json.Number
import WorkerTelemetry.Json.Record
import WorkerTelemetry.Json.Text
import WorkerTelemetry.Lifecycle.Broadcast
import WorkerTelemetry.Lifecycle.Runtime
import WorkerTelemetry.Lifecycle.Shutdown
import WorkerTelemetry.Log.Event
import WorkerTelemetry.Log.Filter
import WorkerTelemetry.Log.Layer
import WorkerTelemetry.Log.Logger
import WorkerTelemetry.Log.Pattern
import WorkerTelemetry.Log.Record
import WorkerTelemetry.Log.Session
import WorkerTelemetry.Log.Severity
import WorkerTelemetry.Log.Sink
import WorkerTelemetry.Log.Timestamp
import WorkerTelemetry.Log.Writer
import WorkerTelemetry.Main
import WorkerTelemetry.Metric.Basic
import WorkerTelemetry.Metric.Descriptor
import WorkerTelemetry.Metric.Exposition
import WorkerTelemetry.Metric.Family
import WorkerTelemetry.Metric.Fingerprint
import WorkerTelemetry.Metric.Histogram
import WorkerTelemetry.Metric.Refusal
import WorkerTelemetry.Metric.Registry
import WorkerTelemetry.Metric.Store
import WorkerTelemetry.Net.Host
import WorkerTelemetry.Net.SocketAddress
import WorkerTelemetry.Scrape.Options
import WorkerTelemetry.Scrape.Run
import WorkerTelemetry.Scrape.Samples
import WorkerTelemetry.Telemetry
import WorkerTelemetry.Text.Blank
import WorkerTelemetry.Text.Bytes
import WorkerTelemetry.Text.CodePoints
import WorkerTelemetry.Text.Hidden
import WorkerTelemetry.Text.Letter
import WorkerTelemetry.Text.Lines
import WorkerTelemetry.Text.NameMap
import WorkerTelemetry.Text.NameSet
import WorkerTelemetry.Text.Quoted
import WorkerTelemetry.Toml.Item
import WorkerTelemetry.Toml.Reader
import WorkerTelemetry.Toml.Scalar
import WorkerTelemetry.Toml.Text
import WorkerTelemetry.Worker.Options
import WorkerTelemetry.Worker.Run
import WorkerTelemetry.Activity.Session
import WorkerTelemetry.Proofs.Activity.Agreement
import WorkerTelemetry.Proofs.Activity.Erasure
import WorkerTelemetry.Proofs.Activity.Recordings
import WorkerTelemetry.Proofs.Activity.Accounting
import WorkerTelemetry.Proofs.Decimal.Canonical
import WorkerTelemetry.Proofs.Json.Grammar
import WorkerTelemetry.Proofs.Json.RoundTrip
import WorkerTelemetry.Proofs.Json.Nesting
import WorkerTelemetry.Proofs.Log.Writing
import WorkerTelemetry.Proofs.Log.Framing
import WorkerTelemetry.Proofs.Log.Decoding
import WorkerTelemetry.Proofs.Metric.Registering
import WorkerTelemetry.Proofs.Metric.Steps
import WorkerTelemetry.Proofs.Metric.Refusals
import WorkerTelemetry.Proofs.Metric.SampleLines
import WorkerTelemetry.Proofs.Activity.Work
import WorkerTelemetry.Proofs.Metric.Gathering
import WorkerTelemetry.Proofs.Activity.Listing
import WorkerTelemetry.Proofs.Activity.Exposing
import WorkerTelemetry.Proofs.Metric.Masking
import WorkerTelemetry.Proofs.Activity.Reordering
import WorkerTelemetry.Proofs.Lifecycle.Delivery
import WorkerTelemetry.Proofs.Config.Stored
import WorkerTelemetry.Proofs.Lifecycle.Stopping
import WorkerTelemetry.Proofs.Config.Layers
import WorkerTelemetry.Proofs.Http.Literal
import WorkerTelemetry.Proofs.Http.Reaching
import WorkerTelemetry.Proofs.Lifecycle.Serving
import WorkerTelemetry.Proofs.Lifecycle.Inertness
import WorkerTelemetry.Proofs.Metric.Views
import WorkerTelemetry.Proofs.Activity.Holdings
import WorkerTelemetry.Proofs.Metric.Closing
import WorkerTelemetry.Proofs.Activity.Enrolling
import WorkerTelemetry.Proofs.Metric.Naming
import WorkerTelemetry.Proofs.Metric.Forming
import WorkerTelemetry.Proofs.Activity.Contents
import WorkerTelemetry.Proofs.Decimal.Enclosing
import WorkerTelemetry.Proofs.Metric.Uniqueness
import WorkerTelemetry.Proofs.Decimal.Rounding
import WorkerTelemetry.Proofs.Decimal.Seconds
import WorkerTelemetry.Proofs.Metric.Buckets
import WorkerTelemetry.Proofs.Activity.Counting
import WorkerTelemetry.Proofs.Log.Offering
import WorkerTelemetry.Proofs.Activity.Nesting
import WorkerTelemetry.Proofs.Text.Quoting
import WorkerTelemetry.Proofs.Activity.Lookup
import WorkerTelemetry.Proofs.Metric.Blurring
import WorkerTelemetry.Proofs.Activity.Instrumenting
import WorkerTelemetry.Proofs.Log.Pairing
import WorkerTelemetry.Proofs.Log.Visiting
import WorkerTelemetry.Proofs.Log.Deriving
import WorkerTelemetry.Proofs.Log.Raising
import WorkerTelemetry.Proofs.Metric.Keeping
import WorkerTelemetry.Proofs.Scrape.Picking
import WorkerTelemetry.Proofs.Json.Values
import WorkerTelemetry.Proofs.Json.Layouts
import WorkerTelemetry.Proofs.Json.Records
import WorkerTelemetry.Proofs.Http.Scraping
