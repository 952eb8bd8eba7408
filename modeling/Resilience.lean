import Resilience.Binary64
import Resilience.Binary64.Decimal
import Resilience.Binary64.Shortest
import Resilience.Command.Line
import Resilience.Command.Log
import Resilience.Command.Run
import Resilience.Dict
import Resilience.Dispatch.Breadcrumb
import Resilience.Dispatch.Capture
import Resilience.Dispatch.Delivery
import Resilience.Dispatch.Handler
import Resilience.Dispatch.Registry
import Resilience.Dispatch.Report
import Resilience.Dispatch.Ring
import Resilience.Dispatch.Timeline
import Resilience.Failure.Basic
import Resilience.Failure.Category
import Resilience.Failure.Code
import Resilience.Failure.Raw
import Resilience.Failure.Record
import Resilience.Failure.Shapes
import Resilience.Files
import Resilience.Friendly.Basic
import Resilience.Friendly.Catalog
import Resilience.Friendly.Rule
import Resilience.Friendly.Scrub
import Resilience.Friendly.Terminal
import Resilience.Json.Basic
import Resilience.Json.Draft
import Resilience.Json.Number
import Resilience.Json.Printer
import Resilience.Json.Shape
import Resilience.Json.Token
import Resilience.Logging
import Resilience.Main
import Resilience.Names
import Resilience.Retry.Invoke
import Resilience.Retry.Policy
import Resilience.Retry.Run
import Resilience.Retry.Session
import Resilience.Settings.Basic
import Resilience.Settings.Conversion
import Resilience.Settings.Decode
import Resilience.Settings.Layers
import Resilience.Settings.Load
import Resilience.Telemetry.Batcher
import Resilience.Telemetry.Event
import Resilience.Telemetry.Shipping
import Resilience.Telemetry.SinkConfig
import Resilience.Telemetry.Stringify
import Resilience.Text.Chars
import Resilience.Text.Digits
import Resilience.Text.Pattern
import Resilience.Text.Ranges
import Resilience.Text.Shown
import Resilience.Text.Split
import Resilience.Time.Clock
import Resilience.Time.Span
import Resilience.Time.Timestamp
import Resilience.Toml.Basic
import Resilience.Toml.Branch
import Resilience.Toml.Document
import Resilience.Toml.Quoted
import Resilience.Toml.Scalar
import Resilience.Proofs.Command.Policy
import Resilience.Proofs.Dispatch.Actions
import Resilience.Proofs.Dispatch.Captures
import Resilience.Proofs.Dispatch.Context
import Resilience.Proofs.Dispatch.Delivery
import Resilience.Proofs.Dispatch.Handlers
import Resilience.Proofs.Dispatch.History
import Resilience.Proofs.Dispatch.Ring
import Resilience.Proofs.Dispatch.RoundTrip
import Resilience.Proofs.Dispatch.Wrapping
import Resilience.Proofs.Except
import Resilience.Proofs.Failure.Acceptance
import Resilience.Proofs.Failure.Codes
import Resilience.Proofs.Failure.Raw
import Resilience.Proofs.Failure.Rejection
import Resilience.Proofs.Failure.RoundTrip
import Resilience.Proofs.Failure.Schema
import Resilience.Proofs.Friendly.Assignments
import Resilience.Proofs.Friendly.BaseNames
import Resilience.Proofs.Friendly.Classification
import Resilience.Proofs.Friendly.Colors
import Resilience.Proofs.Friendly.Crossing
import Resilience.Proofs.Friendly.ErrorNames
import Resilience.Proofs.Friendly.Exposure
import Resilience.Proofs.Friendly.FileNames
import Resilience.Proofs.Friendly.HomeDirectories
import Resilience.Proofs.Friendly.Paths
import Resilience.Proofs.Friendly.Plain
import Resilience.Proofs.Friendly.Privacy
import Resilience.Proofs.Friendly.Redaction
import Resilience.Proofs.Friendly.Retries
import Resilience.Proofs.Friendly.Secrets
import Resilience.Proofs.Friendly.Stripping
import Resilience.Proofs.Friendly.Templates
import Resilience.Proofs.Friendly.Thrown
import Resilience.Proofs.Friendly.View
import Resilience.Proofs.Friendly.Words
import Resilience.Proofs.Json.Conforming
import Resilience.Proofs.Json.Number
import Resilience.Proofs.Json.Reading
import Resilience.Proofs.Json.Scanning
import Resilience.Proofs.Json.Texts
import Resilience.Proofs.Retry.Backoff
import Resilience.Proofs.Retry.Cancellation
import Resilience.Proofs.Retry.Course
import Resilience.Proofs.Retry.Ending
import Resilience.Proofs.Retry.Invocation
import Resilience.Proofs.Retry.Policies
import Resilience.Proofs.Retry.Recovery
import Resilience.Proofs.Retry.Waits
import Resilience.Proofs.Telemetry.Changes
import Resilience.Proofs.Telemetry.Freshness
import Resilience.Proofs.Telemetry.Ledger
import Resilience.Proofs.Telemetry.Payloads
import Resilience.Proofs.Telemetry.Pruning
import Resilience.Proofs.Telemetry.Queue
import Resilience.Proofs.Telemetry.Reports
import Resilience.Proofs.Telemetry.Sendings
import Resilience.Proofs.Telemetry.Timer
import Resilience.Proofs.Text.Classes
import Resilience.Proofs.Text.Infix
import Resilience.Proofs.Text.Occurrences
import Resilience.Proofs.Text.Pattern
import Resilience.Proofs.Text.Runs
import Resilience.Proofs.Time.Calendar
import Resilience.Proofs.Time.Reading
