import BodyLength.CommandLine.Command
import BodyLength.CommandLine.Run
import BodyLength.CommandLine.Syntax
import BodyLength.CommandLine.Usage
import BodyLength.Config.Basic
import BodyLength.Config.Error
import BodyLength.Config.Loading
import BodyLength.Config.Reading
import BodyLength.Files.FileTree
import BodyLength.Files.Path
import BodyLength.Files.SourceText
import BodyLength.Json.Basic
import BodyLength.Json.Reader
import BodyLength.Json.Writer
import BodyLength.Limits.BodyLimits
import BodyLength.Limits.Check
import BodyLength.Limits.Failure
import BodyLength.Limits.Options
import BodyLength.Limits.RuleError
import BodyLength.Limits.Wording
import BodyLength.Lint.Frontend
import BodyLength.Lint.Result
import BodyLength.Lint.Rule
import BodyLength.Lint.Run
import BodyLength.Lint.Selection
import BodyLength.Main
import BodyLength.Number.Binary64
import BodyLength.Number.Reading
import BodyLength.Number.Shortest
import BodyLength.Pattern.Basic
import BodyLength.Pattern.Reader
import BodyLength.Pattern.Rejection
import BodyLength.Pattern.Search
import BodyLength.Pattern.Width
import BodyLength.Proofs.Config.Loading
import BodyLength.Proofs.Json.Layout
import BodyLength.Proofs.Json.Literals
import BodyLength.Proofs.Json.ReadBack
import BodyLength.Proofs.Limits.Rejections
import BodyLength.Proofs.Limits.Reported
import BodyLength.Proofs.Limits.Walk
import BodyLength.Proofs.Lint.BadPatterns
import BodyLength.Proofs.Lint.Isolation
import BodyLength.Proofs.Number.Digits
import BodyLength.Proofs.Outcome
import BodyLength.Proofs.Text.Encoding
import BodyLength.Proofs.Tree.Documents
import BodyLength.Proofs.Tree.Numbering
import BodyLength.Proofs.Tree.Places
import BodyLength.Proofs.Tree.References
import BodyLength.Proofs.Tree.RoundTrip
import BodyLength.Report.Abort
import BodyLength.Report.Notice
import BodyLength.Report.Work
import BodyLength.Source.Ast
import BodyLength.Source.Grammar.Arguments
import BodyLength.Source.Grammar.Atoms
import BodyLength.Source.Grammar.CompoundStatements
import BodyLength.Source.Grammar.Operators
import BodyLength.Source.Grammar.Parameters
import BodyLength.Source.Grammar.Patterns
import BodyLength.Source.Grammar.Primaries
import BodyLength.Source.Grammar.SimpleStatements
import BodyLength.Source.Grammar.Strings
import BodyLength.Source.Lexer
import BodyLength.Source.Literal
import BodyLength.Source.Lowering
import BodyLength.Source.Parser
import BodyLength.Source.Program
import BodyLength.Source.Token
import BodyLength.Text.ByteColumn
import BodyLength.Text.CaseEquivalents
import BodyLength.Text.CharTable
import BodyLength.Text.Compatibility
import BodyLength.Text.IdentifierChars
import BodyLength.Text.LetterCase
import BodyLength.Text.LineMap
import BodyLength.Text.Printable
import BodyLength.Text.Quoted
import BodyLength.Text.Utf8
import BodyLength.Text.WordChars
import BodyLength.Tree.Document
import BodyLength.Tree.Kind
import BodyLength.Tree.Listing
import BodyLength.Tree.Node
import BodyLength.Tree.ParseError
import BodyLength.Tree.SourceFile
import BodyLength.Value.Base64
import BodyLength.Value.Basic
import BodyLength.Value.Display
import BodyLength.Value.Impossible
import BodyLength.Yaml.Fault
import BodyLength.Yaml.Node
import BodyLength.Yaml.NodeValue
import BodyLength.Yaml.Property
import BodyLength.Yaml.Resolution
import BodyLength.Yaml.Scalar
import BodyLength.Yaml.ScalarValue
import BodyLength.Yaml.Token
import BodyLength.Yaml.TokenStream
import BodyLength.Proofs.Lint.Gathering
import BodyLength.Proofs.Tree.Acceptance
import BodyLength.Proofs.Source.Covering
import BodyLength.Proofs.Source.Origins
import BodyLength.Proofs.Text.LineAgreement
import BodyLength.Proofs.Limits.LastWins
import BodyLength.Proofs.Limits.ListingAgreement
import BodyLength.Proofs.CommandLine.Reports
import BodyLength.Proofs.Files.Folders
import BodyLength.Proofs.Lint.Scanning
import BodyLength.Proofs.Tree.NumberRanges
import BodyLength.Proofs.Tree.BodyLengths
import BodyLength.Proofs.Limits.MovedReports
import BodyLength.Proofs.Limits.OneLineBodies
import BodyLength.Proofs.Source.Calls
import BodyLength.Proofs.Source.VisitOrder
import BodyLength.Proofs.Source.BodyRanges
import BodyLength.Proofs.Lint.Contributions
import BodyLength.Proofs.Lint.Expansion
import BodyLength.Proofs.Yaml.DistinctKeys
import BodyLength.Proofs.Config.Entries
import BodyLength.Proofs.Config.FileValues
import BodyLength.Proofs.Limits.Restoration
import BodyLength.Proofs.Limits.RaisedLimits
import BodyLength.Proofs.Files.SourceTexts
import BodyLength.Proofs.Text.ByteColumns
