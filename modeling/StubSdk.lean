import StubSdk.Json.Doc
import StubSdk.Json.Cursor
import StubSdk.Json.Strings
import StubSdk.Json.Number
import StubSdk.Json.Read
import StubSdk.Text.Printable
import StubSdk.Text.GraphemeExtend
import StubSdk.Text.Quoted
import StubSdk.Text.Decimal
import StubSdk.Component
import StubSdk.Level
import StubSdk.Details
import StubSdk.Failure
import StubSdk.Canned
import StubSdk.Operation
import StubSdk.Catalog
import StubSdk.Logger
import StubSdk.Observer
import StubSdk.Registry
import StubSdk.Redactor
import StubSdk.Settings
import StubSdk.Envelope
import StubSdk.Service
import StubSdk.Stream
import StubSdk.Factory
import StubSdk.Session
import StubSdk.Proofs.Registry
import StubSdk.Proofs.Envelope
import StubSdk.Proofs.Recipients
import StubSdk.Proofs.Facade
import StubSdk.Proofs.WellFormed
import StubSdk.Proofs.Steps
import StubSdk.Proofs.Brackets
import StubSdk.Proofs.Redaction
import StubSdk.Proofs.LevelChange
import StubSdk.Proofs.Cancellation
import StubSdk.Proofs.Presets
import StubSdk.Proofs.CannedAnswers
import StubSdk.Proofs.Details
import StubSdk.Proofs.DistinctObservers
import StubSdk.Proofs.RecordContents
import StubSdk.Proofs.ExportStreams
import StubSdk.Proofs.QuotedText
import StubSdk.Proofs.LevelNames
import StubSdk.Proofs.MessageIds
