import TextScan.CharSet
import TextScan.CheckedRun
import TextScan.Cursor
import TextScan.Event
import TextScan.Json
import TextScan.Outcome
import TextScan.Outcome.Json
import TextScan.Pattern
import TextScan.Pattern.Regex
import TextScan.Proofs.Attempt
import TextScan.Proofs.CheckedRun
import TextScan.Proofs.Consuming
import TextScan.Proofs.Cursor
import TextScan.Proofs.Failure
import TextScan.Proofs.Growth
import TextScan.Proofs.Guard
import TextScan.Proofs.Json.Notation
import TextScan.Proofs.Json.Reading
import TextScan.Proofs.Lawful
import TextScan.Proofs.Literal
import TextScan.Proofs.Locality
import TextScan.Proofs.Loop
import TextScan.Proofs.Movable
import TextScan.Proofs.Outcome
import TextScan.Proofs.Plain
import TextScan.Proofs.Refinement
import TextScan.Proofs.Regex.Ahead
import TextScan.Proofs.Regex.Anchored
import TextScan.Proofs.Regex.Contract
import TextScan.Proofs.Regex.Directive
import TextScan.Proofs.Regex.Groups
import TextScan.Proofs.Regex.Kept
import TextScan.Proofs.Regex.Leftmost
import TextScan.Proofs.Regex.Match
import TextScan.Proofs.Regex.Normal
import TextScan.Proofs.Regex.Opening
import TextScan.Proofs.Regex.Progress
import TextScan.Proofs.Regex.Search
import TextScan.Proofs.Regex.Shape
import TextScan.Proofs.Regex.Spans
import TextScan.Proofs.Regex.Unmarked
import TextScan.Proofs.Relocation
import TextScan.Proofs.Session
import TextScan.Proofs.Session.Frame
import TextScan.Proofs.Session.Interleaving
import TextScan.Proofs.Session.Sharing
import TextScan.Proofs.Session.Trace
import TextScan.Proofs.Settings
import TextScan.Proofs.Spelling
import TextScan.Proofs.Splitting
import TextScan.Proofs.Template.Grammar
import TextScan.Proofs.Template.Layout
import TextScan.Proofs.Template.Lexicon
import TextScan.Proofs.Template.Lexing
import TextScan.Proofs.Template.Longest
import TextScan.Proofs.Template.Numbers
import TextScan.Proofs.Template.Reading
import TextScan.Proofs.Template.Render
import TextScan.Proofs.Template.RenderAppend
import TextScan.Proofs.Template.RenderErrors
import TextScan.Proofs.Template.RenderLoop
import TextScan.Proofs.Template.Sum
import TextScan.Proofs.Template.TokenErrors
import TextScan.Proofs.Template.TokenLoop
import TextScan.Proofs.Template.Tokenize
import TextScan.Proofs.Template.TokenizeAppend
import TextScan.Proofs.Template.Vocabulary
import TextScan.Proofs.Text
import TextScan.Proofs.Token
import TextScan.Proofs.Walking
import TextScan.Regex.Build
import TextScan.Regex.Engine
import TextScan.Regex.Expr
import TextScan.Regex.Expr.OfTree
import TextScan.Regex.Fault
import TextScan.Regex.Program
import TextScan.Regex.Reading
import TextScan.Regex.Reading.Blank
import TextScan.Regex.Reading.Class
import TextScan.Regex.Reading.Escape
import TextScan.Regex.Reading.Group
import TextScan.Regex.Report
import TextScan.Regex.Run
import TextScan.Regex.Size
import TextScan.Regex.Size.Extent
import TextScan.Regex.Size.Set
import TextScan.Regex.Size.Words
import TextScan.Regex.Switches
import TextScan.Regex.Tree
import TextScan.Scanner
import TextScan.Scanner.Token
import TextScan.Session
import TextScan.Template.Render
import TextScan.Template.Tokens
import TextScan.Text
import TextScan.Text.Decimal
import TextScan.Text.Encoding
import TextScan.Text.Quoted
import TextScan.Unicode.Alphabetic
import TextScan.Unicode.Blank
import TextScan.Unicode.Database
import TextScan.Unicode.Digit
import TextScan.Unicode.Fold
import TextScan.Unicode.Hidden
import TextScan.Unicode.Letter
import TextScan.Unicode.Property
import TextScan.Unicode.Punctuation
import TextScan.Unicode.Script
import TextScan.Unicode.Word
