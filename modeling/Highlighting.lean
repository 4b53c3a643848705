import Highlighting.CommandLine
import Highlighting.Config
import Highlighting.Decimal.Binary64
import Highlighting.Decimal.Shortest
import Highlighting.Document
import Highlighting.Failure
import Highlighting.Files
import Highlighting.Grammar.Arrangement
import Highlighting.Grammar.BackReference
import Highlighting.Grammar.Basic
import Highlighting.Grammar.Compile
import Highlighting.Grammar.Fault
import Highlighting.Grammar.File
import Highlighting.Grammar.Source
import Highlighting.Highlighter
import Highlighting.Host
import Highlighting.Json.Basic
import Highlighting.Json.Document
import Highlighting.Json.Printer
import Highlighting.Json.Reader
import Highlighting.Mark
import Highlighting.MarkStore
import Highlighting.Matcher
import Highlighting.Path
import Highlighting.Pattern.Basic
import Highlighting.Pattern.Bracket
import Highlighting.Pattern.Compile
import Highlighting.Pattern.Draft
import Highlighting.Pattern.Escape
import Highlighting.Pattern.Fault
import Highlighting.Pattern.Folding
import Highlighting.Pattern.LookBehind
import Highlighting.Pattern.Match
import Highlighting.Pattern.Reader
import Highlighting.Pattern.Width
import Highlighting.Plan
import Highlighting.Program
import Highlighting.Registry.Basic
import Highlighting.Registry.Manifest
import Highlighting.Request
import Highlighting.Rules
import Highlighting.Scan.Cache
import Highlighting.Scan.Captures
import Highlighting.Scan.Fault
import Highlighting.Scan.Line
import Highlighting.Scan.Paint
import Highlighting.Scan.Select
import Highlighting.Scan.Stack
import Highlighting.Table
import Highlighting.Text.Lines
import Highlighting.Text.Quoted
import Highlighting.Text.Utf8
import Highlighting.Text.Words
import Highlighting.Token
import Highlighting.Tokenizer
import Highlighting.Transport
import Highlighting.Unicode.Block
import Highlighting.Unicode.Casing
import Highlighting.Unicode.Category
import Highlighting.Unicode.Derived
import Highlighting.Unicode.Listed
import Highlighting.Unicode.Property
import Highlighting.Unicode.RangeSet
import Highlighting.Unicode.Script
import Highlighting.Yaml.Cursor
import Highlighting.Yaml.Lexer
import Highlighting.Yaml.Plain
import Highlighting.Yaml.Reader
import Highlighting.Yaml.Scalar
import Highlighting.Yaml.Token
import Highlighting.Main
import Highlighting.Proofs.Scan.Effects
import Highlighting.Proofs.Scan.CacheFree
import Highlighting.Proofs.Registry.Loading
import Highlighting.Proofs.Tokenizer.Run
import Highlighting.Proofs.Sample
import Highlighting.Proofs.Scan.Painting
import Highlighting.Proofs.Tokenizer.Tiling
import Highlighting.Proofs.MarkStore
import Highlighting.Proofs.Tokenizer.Changes
import Highlighting.Proofs.Highlighter.Served
import Highlighting.Proofs.Highlighter.Visible
import Highlighting.Proofs.Highlighter.Retry
import Highlighting.Proofs.MarkStore.Replay
import Highlighting.Proofs.Highlighter.Calls
import Highlighting.Proofs.Highlighter.Reachable
import Highlighting.Proofs.Highlighter.Trace
import Highlighting.Proofs.Tokenizer.History
import Highlighting.Proofs.Scan.Regions
import Highlighting.Proofs.Grammar.Targets
import Highlighting.Proofs.Grammar.Effects
import Highlighting.Proofs.Grammar.Places
import Highlighting.Proofs.Grammar.Compiled
import Highlighting.Proofs.Grammar.Numbering
import Highlighting.Proofs.Grammar.Scoping
import Highlighting.Proofs.Grammar.Candidates
import Highlighting.Proofs.Grammar.Aliases
import Highlighting.Proofs.Registry.Resolution
import Highlighting.Proofs.Highlighter.Containment
import Highlighting.Proofs.Highlighter.Agreement
import Highlighting.Proofs.Highlighter.Separate
import Highlighting.Proofs.Tokenizer.Failures
import Highlighting.Proofs.Grammar.Built
import Highlighting.Proofs.Grammar.Fuel
import Highlighting.Proofs.Grammar.Arena
import Highlighting.Proofs.Scan.Lockstep
import Highlighting.Proofs.Scan.Captured
import Highlighting.Proofs.Scan.Nesting
import Highlighting.Proofs.Scan.Checked
import Highlighting.Proofs.Scan.Inside
import Highlighting.Proofs.Files
import Highlighting.Proofs.Path
import Highlighting.Proofs.Registry.Transparency
import Highlighting.Proofs.Registry.Index
import Highlighting.Proofs.Registry.Contributions
import Highlighting.Proofs.Text.Utf8
import Highlighting.Proofs.Transport.Conversation
import Highlighting.Proofs.Highlighter.Truncation
import Highlighting.Proofs.Transport.BrokenPipe
import Highlighting.Proofs.Transport.Written
import Highlighting.Proofs.Scan.CapturedText
import Highlighting.Proofs.Scan.Claimed
import Highlighting.Proofs.Scan.StepLimit
import Highlighting.Proofs.Grammar.CaptureOrder
import Highlighting.Proofs.Scan.Leftmost
import Highlighting.Proofs.Grammar.Offered
import Highlighting.Proofs.Scan.Conditions
import Highlighting.Proofs.Scan.Labels
import Highlighting.Proofs.Groups
import Highlighting.Proofs.Registry.FirstLine
import Highlighting.Proofs.Request
import Highlighting.Proofs.Registry.Choice
import Highlighting.Proofs.Pattern.Items
import Highlighting.Proofs.Pattern.Openings
import Highlighting.Proofs.Pattern.GroupCount
import Highlighting.Proofs.Grammar.Substitution
