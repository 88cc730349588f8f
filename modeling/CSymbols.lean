import CSymbols.Batch
import CSymbols.Binding
import CSymbols.CommandLine
import CSymbols.Compiler
import CSymbols.Decimal.Double
import CSymbols.Diagnostic
import CSymbols.FileSystem
import CSymbols.FileTree
import CSymbols.Gateway.Capabilities
import CSymbols.Gateway.Catalogue
import CSymbols.Gateway.Check
import CSymbols.Gateway.Content
import CSymbols.Gateway.Handshake
import CSymbols.Gateway.Message
import CSymbols.Gateway.Params
import CSymbols.Gateway.Service
import CSymbols.Json.Basic
import CSymbols.Json.Number
import CSymbols.Json.Reader
import CSymbols.Json.Token
import CSymbols.Json.Writer
import CSymbols.Lexeme.Extent
import CSymbols.Lexeme.Kind
import CSymbols.Lexeme.Scan
import CSymbols.Machine
import CSymbols.Main
import CSymbols.Occurrence
import CSymbols.OrderedMap
import CSymbols.Path
import CSymbols.Proofs.BatchEntries
import CSymbols.Proofs.CutSpelling
import CSymbols.Proofs.DiagnosticHeader
import CSymbols.Proofs.DiagnosticText
import CSymbols.Proofs.IdleCalls
import CSymbols.Proofs.InertMembers
import CSymbols.Proofs.JsonGrammar
import CSymbols.Proofs.JsonLayout
import CSymbols.Proofs.JsonText
import CSymbols.Proofs.LatestEntry
import CSymbols.Proofs.LexemeExtent
import CSymbols.Proofs.LexemePlaces
import CSymbols.Proofs.Linearization
import CSymbols.Proofs.LongestLexeme
import CSymbols.Proofs.Numerals
import CSymbols.Proofs.Parentheses
import CSymbols.Proofs.PathComponents
import CSymbols.Proofs.Patterns
import CSymbols.Proofs.Preorder
import CSymbols.Proofs.ReportEntries
import CSymbols.Proofs.ReportFaults
import CSymbols.Proofs.ReportText
import CSymbols.Proofs.RunJudgement
import CSymbols.Proofs.SettingsHistory
import CSymbols.Proofs.SharedSession
import CSymbols.Proofs.TextLines
import CSymbols.Proofs.TreeDump
import CSymbols.Proofs.TreeRoundTrip
import CSymbols.Proofs.Trimming
import CSymbols.Proofs.Utf8Encoding
import CSymbols.Proofs.Visibility
import CSymbols.Remark
import CSymbols.Report
import CSymbols.Session
import CSymbols.Settings.Basic
import CSymbols.Settings.File
import CSymbols.Settings.Patch
import CSymbols.SourceUnit
import CSymbols.Spelling.Declarator
import CSymbols.Spelling.ParameterList
import CSymbols.Spelling.Signature
import CSymbols.Text.Blank
import CSymbols.Text.CombiningClass
import CSymbols.Text.Composition
import CSymbols.Text.Decimal
import CSymbols.Text.DecimalDigit
import CSymbols.Text.Fields
import CSymbols.Text.Lines
import CSymbols.Text.Quoted
import CSymbols.Text.Unshown
import CSymbols.Text.Utf8
import CSymbols.Toml.Basic
import CSymbols.Toml.Document
import CSymbols.Toml.Scalar
import CSymbols.Toml.Timestamp
import CSymbols.Tree.Document
import CSymbols.Tree.Location
import CSymbols.Tree.Node
import CSymbols.Url.Address
import CSymbols.Url.Domain.Direction
import CSymbols.Url.Domain.Image
import CSymbols.Url.Domain.Joining
import CSymbols.Url.Domain.Mark
import CSymbols.Url.Domain.Name
import CSymbols.Url.Domain.Permitted
import CSymbols.Url.Domain.Punycode
import CSymbols.Url.Fault
import CSymbols.Url.Host
import CSymbols.Url.Reference
import CSymbols.Proofs.ConfigSearch
import CSymbols.Proofs.ParameterPieces
import CSymbols.Proofs.PrintedSpelling
import CSymbols.Proofs.GatewayHistory
import CSymbols.Proofs.SpellingLayout
import CSymbols.Proofs.ByteOffsets
import CSymbols.Proofs.ExaminedParentheses
import CSymbols.Proofs.CommaDepth
import CSymbols.Proofs.SealedOperands
import CSymbols.Proofs.MemberPointers
import CSymbols.Proofs.Terminators
import CSymbols.Proofs.ContinuedLines
import CSymbols.Proofs.SilentLiterals
import CSymbols.Proofs.OnePass
import CSymbols.Proofs.ListedComments
import CSymbols.Proofs.DirectiveLines
import CSymbols.Proofs.JoinedSources
import CSymbols.Proofs.ShortestHeader
import CSymbols.Proofs.StrictRuns
import CSymbols.Proofs.ParameterDivision
