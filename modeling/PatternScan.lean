import PatternScan.Cache.Basic
import PatternScan.Cache.RecencyList
import PatternScan.Cache.Shared
import PatternScan.Cache.Statistics
import PatternScan.Config
import PatternScan.Engine.Arena
import PatternScan.Engine.Backend
import PatternScan.Engine.Basic
import PatternScan.Engine.Regex
import PatternScan.Engine.RegexArena
import PatternScan.Engine.Scripted
import PatternScan.Error
import PatternScan.Json.Reader
import PatternScan.Json.Records
import PatternScan.Number.Double
import PatternScan.Number.Shortest
import PatternScan.Pattern.Expr
import PatternScan.Pattern.Fault
import PatternScan.Pattern.Flags
import PatternScan.Pattern.Look
import PatternScan.Pattern.NamedSet
import PatternScan.Pattern.Parser
import PatternScan.Pattern.Program
import PatternScan.Pattern.Search
import PatternScan.Proofs.Cache.Aftermath
import PatternScan.Proofs.Cache.Calls
import PatternScan.Proofs.Cache.Correspondence
import PatternScan.Proofs.Cache.Departure
import PatternScan.Proofs.Cache.Disposals
import PatternScan.Proofs.Cache.Entries
import PatternScan.Proofs.Cache.Failures
import PatternScan.Proofs.Cache.HandBack
import PatternScan.Proofs.Cache.Holding
import PatternScan.Proofs.Cache.Inclusion
import PatternScan.Proofs.Cache.Ledger
import PatternScan.Proofs.Cache.PatternText
import PatternScan.Proofs.Cache.Recency
import PatternScan.Proofs.Cache.RecencyList
import PatternScan.Proofs.Cache.Refusal
import PatternScan.Proofs.Cache.Requests
import PatternScan.Proofs.Cache.Reuse
import PatternScan.Proofs.Engine.Batch
import PatternScan.Proofs.Engine.Precedence
import PatternScan.Proofs.Engine.Recorded
import PatternScan.Proofs.Engine.Recycling
import PatternScan.Proofs.Engine.Regex
import PatternScan.Proofs.Engine.Selection
import PatternScan.Proofs.Engine.Slots
import PatternScan.Proofs.Pattern.Effort
import PatternScan.Proofs.Pattern.Groups
import PatternScan.Proofs.Pattern.Leftmost
import PatternScan.Proofs.Scanner.Answer
import PatternScan.Proofs.Scanner.Captures
import PatternScan.Proofs.Scanner.MatchedText
import PatternScan.Proofs.Scanner.Orderly
import PatternScan.Proofs.Scanner.Served
import PatternScan.Proofs.Scanner.Start
import PatternScan.Proofs.Script.Delivery
import PatternScan.Proofs.Script.Depth
import PatternScan.Proofs.Session.Apart
import PatternScan.Proofs.Session.Busy
import PatternScan.Proofs.Session.Callbacks
import PatternScan.Proofs.Session.Effects
import PatternScan.Proofs.Session.Lifetime
import PatternScan.Proofs.Session.Moves
import PatternScan.Proofs.Session.Stability
import PatternScan.Proofs.Session.Transparency
import PatternScan.Proofs.Text.Characters
import PatternScan.Proofs.Text.Encoding
import PatternScan.Proofs.Text.Exactness
import PatternScan.Proofs.Text.LeadingInteger
import PatternScan.Proofs.Text.Narrowing
import PatternScan.Proofs.Text.Numerals
import PatternScan.Proofs.Text.Offsets
import PatternScan.Proofs.Text.OnePass
import PatternScan.Proofs.Text.Pieces
import PatternScan.Proofs.Text.RoundTrip
import PatternScan.Proofs.Text.Slices
import PatternScan.Proofs.Text.SortedSearch
import PatternScan.Proofs.Text.SortedTable
import PatternScan.Proofs.Text.Substrings
import PatternScan.Proofs.Text.Translation
import PatternScan.Proofs.Text.Utf8
import PatternScan.Proofs.Text.Wraparound
import PatternScan.Scanner.Basic
import PatternScan.Scanner.Finder
import PatternScan.Scanner.Result
import PatternScan.Script.Conversion
import PatternScan.Script.Host
import PatternScan.Script.Run
import PatternScan.Script.Value
import PatternScan.Session.Program
import PatternScan.Session.Run
import PatternScan.Session.Step
import PatternScan.Session.View
import PatternScan.Session.World
import PatternScan.Span
import PatternScan.Text.Blank
import PatternScan.Text.Indexed
import PatternScan.Text.PackedOffsets
import PatternScan.Text.Quoted
import PatternScan.Text.SortedTable
import PatternScan.Text.StartPosition
import PatternScan.Text.Unit
import PatternScan.Text.Utf8
import PatternScan.Unicode.CaseFold
import PatternScan.Unicode.CategoryRanges
import PatternScan.Unicode.CodeSet
import PatternScan.Unicode.Property
import PatternScan.Unicode.PropertyRanges
import PatternScan.Version

