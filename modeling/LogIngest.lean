import LogIngest.Calendar.Components
import LogIngest.Calendar.Date
import LogIngest.Calendar.DateTime
import LogIngest.Calendar.Format
import LogIngest.Calendar.Item
import LogIngest.Calendar.Layout
import LogIngest.Calendar.Resolution
import LogIngest.Calendar.Scan
import LogIngest.Calendar.Timestamp
import LogIngest.Calendar.Timezone
import LogIngest.CommandLine.Command
import LogIngest.CommandLine.Environment
import LogIngest.CommandLine.Grammar
import LogIngest.CommandLine.Input
import LogIngest.CommandLine.Parse
import LogIngest.CommandLine.Run
import LogIngest.Config.Document
import LogIngest.Config.Error
import LogIngest.Config.Names
import LogIngest.Config.Properties
import LogIngest.Config.Repository
import LogIngest.Decimal.Binary
import LogIngest.Decimal.Layout
import LogIngest.Decimal.Numeral
import LogIngest.Decimal.Reading
import LogIngest.Decimal.Shortest
import LogIngest.Dictionary
import LogIngest.Duration
import LogIngest.Entry.Basic
import LogIngest.Entry.Envelope
import LogIngest.Entry.Listing
import LogIngest.Entry.SkipReason
import LogIngest.Field.Conversion
import LogIngest.Field.Converter
import LogIngest.Field.Value
import LogIngest.Files.Expansion
import LogIngest.Files.Lines
import LogIngest.Files.Snapshot
import LogIngest.Files.Wildcard
import LogIngest.Json.Decoder
import LogIngest.Json.Fault
import LogIngest.Json.Lexeme
import LogIngest.Json.Reader
import LogIngest.Json.Record
import LogIngest.Json.Skipping
import LogIngest.Json.Value
import LogIngest.Json.Writer
import LogIngest.Keywords
import LogIngest.Main
import LogIngest.Number.Format
import LogIngest.Parser.Basic
import LogIngest.Parser.Delimited
import LogIngest.Parser.Document
import LogIngest.Parser.Filter
import LogIngest.Parser.Matching
import LogIngest.Parser.Strategy
import LogIngest.Pattern.Basic
import LogIngest.Pattern.Bracket
import LogIngest.Pattern.Diagnosis
import LogIngest.Pattern.Escape
import LogIngest.Pattern.Fault
import LogIngest.Pattern.Flags
import LogIngest.Pattern.Look
import LogIngest.Pattern.Node
import LogIngest.Pattern.Program
import LogIngest.Pattern.Search
import LogIngest.Pattern.Token
import LogIngest.Pool.Basic
import LogIngest.Pool.State
import LogIngest.Proofs.Calendar.Components
import LogIngest.Proofs.Calendar.Continuation
import LogIngest.Proofs.Calendar.Days
import LogIngest.Proofs.Calendar.Determination
import LogIngest.Proofs.Calendar.Filling
import LogIngest.Proofs.Calendar.Later
import LogIngest.Proofs.Calendar.MillisPatterns
import LogIngest.Proofs.Calendar.Milliseconds
import LogIngest.Proofs.Calendar.Offsets
import LogIngest.Proofs.Calendar.Patterns
import LogIngest.Proofs.Calendar.Scanning
import LogIngest.Proofs.Calendar.Specifiers
import LogIngest.Proofs.Calendar.Spellings
import LogIngest.Proofs.Calendar.Timestamps
import LogIngest.Proofs.Calendar.ZoneSpecifiers
import LogIngest.Proofs.Calendar.Zones
import LogIngest.Proofs.CommandLine.Counts
import LogIngest.Proofs.CommandLine.Limits
import LogIngest.Proofs.Config.RoundTrip
import LogIngest.Proofs.Decimal.Doubles
import LogIngest.Proofs.Decimal.Numeral
import LogIngest.Proofs.Decimal.Rounding
import LogIngest.Proofs.Dictionary
import LogIngest.Proofs.Entry.Envelopes
import LogIngest.Proofs.Entry.Listings
import LogIngest.Proofs.Entry.RoundTrip
import LogIngest.Proofs.Fallible
import LogIngest.Proofs.Field.Dates
import LogIngest.Proofs.Field.Defaults
import LogIngest.Proofs.Field.Exactness
import LogIngest.Proofs.Field.Fidelity
import LogIngest.Proofs.Field.Formatted
import LogIngest.Proofs.Field.Narrowing
import LogIngest.Proofs.Field.Quotients
import LogIngest.Proofs.Field.Settings
import LogIngest.Proofs.Field.Truth
import LogIngest.Proofs.Field.Typing
import LogIngest.Proofs.Files.Lines
import LogIngest.Proofs.Files.Texts
import LogIngest.Proofs.Json.Decoders
import LogIngest.Proofs.Json.Framing
import LogIngest.Proofs.Json.Lexemes
import LogIngest.Proofs.Json.Members
import LogIngest.Proofs.Json.Records
import LogIngest.Proofs.Json.SkippedLexemes
import LogIngest.Proofs.Json.Skipping
import LogIngest.Proofs.Json.Values
import LogIngest.Proofs.Keywords.Segments
import LogIngest.Proofs.Keywords.Terms
import LogIngest.Proofs.Number.Acceptance
import LogIngest.Proofs.Number.Conversion
import LogIngest.Proofs.Number.Patterns
import LogIngest.Proofs.Number.Runs
import LogIngest.Proofs.Number.Scanning
import LogIngest.Proofs.Number.Signs
import LogIngest.Proofs.Parser.Dating
import LogIngest.Proofs.Parser.Documents
import LogIngest.Proofs.Parser.Drafts
import LogIngest.Proofs.Parser.Envelopes
import LogIngest.Proofs.Parser.Extraction
import LogIngest.Proofs.Parser.FieldOrder
import LogIngest.Proofs.Parser.FieldOutcomes
import LogIngest.Proofs.Parser.FirstNumerals
import LogIngest.Proofs.Parser.FullMatches
import LogIngest.Proofs.Parser.NameFilters
import LogIngest.Proofs.Parser.Policies
import LogIngest.Proofs.Parser.Positions
import LogIngest.Proofs.Parser.Readings
import LogIngest.Proofs.Parser.Registration
import LogIngest.Proofs.Parser.Resolution
import LogIngest.Proofs.Parser.SettingFaults
import LogIngest.Proofs.Parser.SkipReasons
import LogIngest.Proofs.Parser.Stages
import LogIngest.Proofs.Parser.StringLeaves
import LogIngest.Proofs.Parser.Typing
import LogIngest.Proofs.Parser.UpstreamFields
import LogIngest.Proofs.Pattern.Assembly
import LogIngest.Proofs.Pattern.Classes
import LogIngest.Proofs.Pattern.Closing
import LogIngest.Proofs.Pattern.Code
import LogIngest.Proofs.Pattern.Enclosing
import LogIngest.Proofs.Pattern.Straight
import LogIngest.Proofs.Pattern.Tokens
import LogIngest.Proofs.Pool.Accounting
import LogIngest.Proofs.Pool.Completion
import LogIngest.Proofs.Pool.Lifetime
import LogIngest.Proofs.Pool.Runs
import LogIngest.Proofs.Repository.Routing
import LogIngest.Proofs.Repository.Validation
import LogIngest.Proofs.Severity
import LogIngest.Proofs.Statistics.Conservation
import LogIngest.Proofs.Statistics.Counts
import LogIngest.Proofs.Statistics.Merging
import LogIngest.Proofs.Statistics.Splitting
import LogIngest.Proofs.Text.Bytes
import LogIngest.Proofs.Text.CharSets
import LogIngest.Proofs.Text.Lowercase
import LogIngest.Proofs.Text.Pieces
import LogIngest.Proofs.Text.Quotes
import LogIngest.Proofs.Text.Trimming
import LogIngest.Repository
import LogIngest.Severity
import LogIngest.Statistics.Basic
import LogIngest.Statistics.Document
import LogIngest.Statistics.Report
import LogIngest.Text.Age
import LogIngest.Text.Alphabet
import LogIngest.Text.Blank
import LogIngest.Text.Case
import LogIngest.Text.CaseFold
import LogIngest.Text.CaseRun
import LogIngest.Text.CharSet
import LogIngest.Text.Lowercase
import LogIngest.Text.Pieces
import LogIngest.Text.Quoted
import LogIngest.Text.Quotes
import LogIngest.Text.Segmentation
