import BlobRetrieval.Bytes
import BlobRetrieval.CommandLine.Arguments
import BlobRetrieval.CommandLine.Basic
import BlobRetrieval.Compare.Check
import BlobRetrieval.Compare.Verdict
import BlobRetrieval.Config.Basic
import BlobRetrieval.Config.Describe
import BlobRetrieval.Config.Load
import BlobRetrieval.Config.Settings
import BlobRetrieval.Decimal
import BlobRetrieval.Decimal.Shortest
import BlobRetrieval.Fetch.Client
import BlobRetrieval.Fetch.Format
import BlobRetrieval.Fetch.Outcome
import BlobRetrieval.Fetch.Retrieve
import BlobRetrieval.Fetch.Transport
import BlobRetrieval.Fetch.Wire
import BlobRetrieval.Files
import BlobRetrieval.Hex
import BlobRetrieval.Json.ByteValue
import BlobRetrieval.Json.Fault
import BlobRetrieval.Json.Number
import BlobRetrieval.Json.Reader
import BlobRetrieval.Json.Skip
import BlobRetrieval.Json.Text
import BlobRetrieval.Json.Typed
import BlobRetrieval.Json.Value
import BlobRetrieval.Log.Directive
import BlobRetrieval.Log.Event
import BlobRetrieval.Log.Filter
import BlobRetrieval.Log.Level
import BlobRetrieval.Main
import BlobRetrieval.Pattern.Basic
import BlobRetrieval.Pattern.Class
import BlobRetrieval.Pattern.Reader
import BlobRetrieval.Pattern.Usable
import BlobRetrieval.Program.Run
import BlobRetrieval.Program.Task
import BlobRetrieval.Sidecar.Basic
import BlobRetrieval.Sidecar.Json
import BlobRetrieval.Sidecar.Reader
import BlobRetrieval.Sidecar.Sample
import BlobRetrieval.Sidecar.Summary
import BlobRetrieval.Ssz.Basic
import BlobRetrieval.Ssz.Sidecar
import BlobRetrieval.Text.Alphanumeric
import BlobRetrieval.Text.AsciiCase
import BlobRetrieval.Text.Blank
import BlobRetrieval.Text.CaseTable
import BlobRetrieval.Text.Lowercase
import BlobRetrieval.Text.Quoted
import BlobRetrieval.Text.Ranges
import BlobRetrieval.Text.Scan
import BlobRetrieval.Text.Unprintable
import BlobRetrieval.Text.Utf8
import BlobRetrieval.Toml.Document
import BlobRetrieval.Toml.Line
import BlobRetrieval.Toml.Number
import BlobRetrieval.Toml.Table
import BlobRetrieval.Toml.Text
import BlobRetrieval.Url.Basic
import BlobRetrieval.Url.Host
import BlobRetrieval.Url.Percent
import BlobRetrieval.Url.Punycode
import BlobRetrieval.Url.Reader
import BlobRetrieval.Proofs.Ssz.Layout
import BlobRetrieval.Proofs.Compare.Interleaving
import BlobRetrieval.Proofs.Fetch.Format
import BlobRetrieval.Proofs.Fetch.Transports
import BlobRetrieval.Proofs.Fetch.Session
import BlobRetrieval.Proofs.Files.Paths
import BlobRetrieval.Proofs.Files.Writing
import BlobRetrieval.Proofs.Fetch.Errands
import BlobRetrieval.Proofs.Program.SavedFiles
import BlobRetrieval.Proofs.Compare.RawBytes
import BlobRetrieval.Proofs.Fetch.Exclusive
import BlobRetrieval.Proofs.Json.Steady
import BlobRetrieval.Proofs.Fetch.CutShort
import BlobRetrieval.Proofs.Json.CutShort
import BlobRetrieval.Proofs.Json.Forms
import BlobRetrieval.Proofs.Json.Integers
import BlobRetrieval.Proofs.Sidecar.Forms
import BlobRetrieval.Proofs.Compare.Contents
import BlobRetrieval.Proofs.Program.Settings
import BlobRetrieval.Proofs.Program.Comparison
import BlobRetrieval.Proofs.Program.Overrides
import BlobRetrieval.Proofs.Compare.Decision
import BlobRetrieval.Proofs.Program.Faults
import BlobRetrieval.Proofs.Log.Levels
import BlobRetrieval.Proofs.Program.Logging
import BlobRetrieval.Proofs.Json.Meaning
import BlobRetrieval.Proofs.Json.Numbers
import BlobRetrieval.Proofs.Json.Surplus
import BlobRetrieval.Proofs.Json.Arrays
import BlobRetrieval.Proofs.Json.ByteValues
import BlobRetrieval.Proofs.Json.Skipping
import BlobRetrieval.Proofs.Json.Members
import BlobRetrieval.Proofs.Text.HexEdits
import BlobRetrieval.Proofs.Json.Edits
import BlobRetrieval.Proofs.Sidecar.Meaning
import BlobRetrieval.Proofs.Sidecar.Edits
import BlobRetrieval.Proofs.Fetch.Edits
import BlobRetrieval.Proofs.Text.HexForms
import BlobRetrieval.Proofs.Json.Fields
import BlobRetrieval.Proofs.Json.Denoted
import BlobRetrieval.Proofs.Sidecar.Fields
import BlobRetrieval.Proofs.Sidecar.FixedLength
import BlobRetrieval.Proofs.Fetch.Acceptance
import BlobRetrieval.Proofs.Ssz.Parts
import BlobRetrieval.Proofs.Program.DefaultConfig
import BlobRetrieval.Proofs.Compare.Mirror
import BlobRetrieval.Proofs.Fetch.ContentType
import BlobRetrieval.Proofs.Fetch.Events
import BlobRetrieval.Proofs.Toml.Keys
import BlobRetrieval.Proofs.Toml.Alike
import BlobRetrieval.Proofs.Toml.Reordering
import BlobRetrieval.Proofs.Toml.Merging
import BlobRetrieval.Proofs.Text.Scan
import BlobRetrieval.Proofs.Toml.Values
import BlobRetrieval.Proofs.Config.Admission
import BlobRetrieval.Proofs.Config.Edits
import BlobRetrieval.Proofs.Program.ConfigSources
import BlobRetrieval.Proofs.Text.Endings
import BlobRetrieval.Proofs.Toml.Strings
import BlobRetrieval.Proofs.Toml.Scalars
import BlobRetrieval.Proofs.Toml.Nesting
import BlobRetrieval.Proofs.Toml.Rounds
import BlobRetrieval.Proofs.Toml.Lines
import BlobRetrieval.Proofs.Toml.Revision
import BlobRetrieval.Proofs.Text.Lowercase
import BlobRetrieval.Proofs.Fetch.FormatNames
import BlobRetrieval.Proofs.Fetch.MediaTypes
import BlobRetrieval.Proofs.Fetch.Addresses
import BlobRetrieval.Proofs.Json.QuotedNumbers
import BlobRetrieval.Proofs.Text.Splitting
import BlobRetrieval.Proofs.Compare.Wording
import BlobRetrieval.Proofs.Sidecar.Summary
import BlobRetrieval.Proofs.Ssz.FixedSize
import BlobRetrieval.Proofs.Sidecar.Blobs
