import ChangeReview.Analysis
import ChangeReview.Analysis.OfPatch
import ChangeReview.Callable.Assessment
import ChangeReview.Callable.Basic
import ChangeReview.Callable.Kinds
import ChangeReview.Change.Basic
import ChangeReview.Change.Classification
import ChangeReview.Change.Moves
import ChangeReview.Closeout.Capture
import ChangeReview.Closeout.Limit
import ChangeReview.Closeout.Run
import ChangeReview.Closeout.Settings
import ChangeReview.Closeout.Watch
import ChangeReview.CommandLine.Arguments
import ChangeReview.CommandLine.Help
import ChangeReview.CommandLine.Run
import ChangeReview.Corpus.Case
import ChangeReview.Corpus.Run
import ChangeReview.Declaration.Expression
import ChangeReview.Declaration.Formatted
import ChangeReview.Declaration.Grammar
import ChangeReview.Declaration.Literal
import ChangeReview.Declaration.LooseToken
import ChangeReview.Declaration.Numeral
import ChangeReview.Declaration.ParameterList
import ChangeReview.Declaration.Pattern
import ChangeReview.Declaration.Reader
import ChangeReview.Declaration.Statement
import ChangeReview.Declaration.Term
import ChangeReview.Declaration.Token
import ChangeReview.Declaration.TypeParameters
import ChangeReview.Digest.Md5
import ChangeReview.Failure
import ChangeReview.FileTree.Basic
import ChangeReview.Finding
import ChangeReview.Hook.Install
import ChangeReview.Hook.Script
import ChangeReview.Json.Basic
import ChangeReview.Json.Display
import ChangeReview.Json.Reader
import ChangeReview.Json.Writer
import ChangeReview.Language
import ChangeReview.Lexeme.Comparable
import ChangeReview.Lexeme.Leaf
import ChangeReview.Lexeme.Scan
import ChangeReview.Lexeme.State
import ChangeReview.Main
import ChangeReview.Number.Binary64
import ChangeReview.Number.Numeral
import ChangeReview.OrderedMap
import ChangeReview.Patch.Basic
import ChangeReview.Patch.Header
import ChangeReview.Patch.Reader
import ChangeReview.Patch.Records
import ChangeReview.Path.Basic
import ChangeReview.Path.Quoted
import ChangeReview.Reference.Basic
import ChangeReview.Reference.Binding
import ChangeReview.Reference.Context
import ChangeReview.Reference.Scan
import ChangeReview.Reference.Search
import ChangeReview.Report.Envelope
import ChangeReview.Report.Hints
import ChangeReview.Report.Review
import ChangeReview.Report.SignatureText
import ChangeReview.Report.SummaryText
import ChangeReview.Repository.Basic
import ChangeReview.Repository.Diff
import ChangeReview.Repository.Snapshot
import ChangeReview.Repository.Worktree
import ChangeReview.Review.Printed
import ChangeReview.Review.Request
import ChangeReview.Review.Run
import ChangeReview.Session.Basic
import ChangeReview.Signature.Assessment
import ChangeReview.Signature.Comparison
import ChangeReview.Signature.Parameters
import ChangeReview.Summary.Basic
import ChangeReview.Summary.Printed
import ChangeReview.Summary.Tiers
import ChangeReview.Symbol.Basic
import ChangeReview.Symbol.Extraction
import ChangeReview.Symbol.Matching
import ChangeReview.Symbol.Moves
import ChangeReview.Syntax.Dialect
import ChangeReview.Syntax.Node
import ChangeReview.Syntax.Place
import ChangeReview.Text.Basic
import ChangeReview.Text.CharacterName
import ChangeReview.Text.Classes
import ChangeReview.Text.CodePoint
import ChangeReview.Text.Compatibility
import ChangeReview.Text.CompatibilityRows
import ChangeReview.Text.Encoding
import ChangeReview.Text.IdentifierRanges
import ChangeReview.Text.LetterRanges
import ChangeReview.Text.NameRows.Further
import ChangeReview.Text.NameRows.Modern
import ChangeReview.Text.NameRows.Symbols
import ChangeReview.Text.NameRows.Words
import ChangeReview.Text.NumberRanges
import ChangeReview.Text.PrintableRanges
import ChangeReview.Text.Visible
import ChangeReview.Trial.Command
import ChangeReview.Trial.Reviewer
import ChangeReview.Trial.Run
import ChangeReview.Proofs.Callable.Lookup
import ChangeReview.Proofs.Callable.WellFormed
import ChangeReview.Proofs.Callable.Call
import ChangeReview.Proofs.Callable.Acceptance
import ChangeReview.Proofs.Callable.Coverage
import ChangeReview.Proofs.Callable.Declared
import ChangeReview.Proofs.Callable.Cases
import ChangeReview.Proofs.Callable.Checks
import ChangeReview.Proofs.Callable.Preservation
import ChangeReview.Proofs.Callable.Compatible
import ChangeReview.Proofs.Callable.Demand
import ChangeReview.Proofs.Callable.Harmless
import ChangeReview.Proofs.Callable.Breaking
import ChangeReview.Proofs.Grouping
import ChangeReview.Proofs.Symbol.Mates
import ChangeReview.Proofs.Symbol.Moves
import ChangeReview.Proofs.Symbol.Matching
import ChangeReview.Proofs.Change.Classification
import ChangeReview.Proofs.Change.Moves
import ChangeReview.Proofs.Analysis.Conservation
import ChangeReview.Proofs.Text.Basic
import ChangeReview.Proofs.Patch.RoundTrip
import ChangeReview.Proofs.Path.Quoted
import ChangeReview.Proofs.Repository.EmptyAddition
import ChangeReview.Proofs.Patch.Records
import ChangeReview.Proofs.Patch.Unread
import ChangeReview.Proofs.Results
import ChangeReview.Proofs.Sorting
import ChangeReview.Proofs.Syntax.Spans
import ChangeReview.Proofs.Reference.Scan
import ChangeReview.Proofs.Reference.Search
import ChangeReview.Proofs.Analysis.Gaps
import ChangeReview.Proofs.Report.Warnings
import ChangeReview.Proofs.Text.Visible
import ChangeReview.Proofs.Report.Lines
import ChangeReview.Proofs.Report.Printable
import ChangeReview.Proofs.Review.Status
import ChangeReview.Proofs.Json.RoundTrip
import ChangeReview.Proofs.Report.Document
import ChangeReview.Proofs.Lexeme.Rest
import ChangeReview.Proofs.Lexeme.Comparable
import ChangeReview.Proofs.Symbol.Pairing
import ChangeReview.Proofs.Callable.Secondary
import ChangeReview.Proofs.Callable.AsyncSwitch
import ChangeReview.Proofs.Text.Words
import ChangeReview.Proofs.Lexeme.Spaced
import ChangeReview.Proofs.Lexeme.Spacing
import ChangeReview.Proofs.Lexeme.Marks
import ChangeReview.Proofs.Signature.ParameterList
import ChangeReview.Proofs.Signature.Nested
import ChangeReview.Proofs.Signature.Splitting
import ChangeReview.Proofs.Signature.Listing
import ChangeReview.Proofs.Signature.TypeTerms
import ChangeReview.Proofs.Signature.GenericParameters
import ChangeReview.Proofs.Signature.GoParameters
import ChangeReview.Proofs.Signature.GoDeclaration
import ChangeReview.Proofs.Signature.GoDeclaration
import ChangeReview.Proofs.Declaration.PieceLengths
import ChangeReview.Proofs.Patch.Recreation
import ChangeReview.Proofs.Repository.Revealing
import ChangeReview.Proofs.Signature.Defaults
import ChangeReview.Proofs.Declaration.TokenTiling
import ChangeReview.Proofs.Declaration.TypeParameters
import ChangeReview.Proofs.Reference.CallTargets
import ChangeReview.Proofs.Summary.Order
import ChangeReview.Proofs.Summary.Tests
import ChangeReview.Proofs.Summary.Outline
import ChangeReview.Proofs.Closeout.Capture
import ChangeReview.Proofs.Lexeme.Consistency
import ChangeReview.Proofs.Repository.Worktree
import ChangeReview.Proofs.Corpus.Balance
import ChangeReview.Proofs.Symbol.SourceOrder
