import SourceUnit.Backend
import SourceUnit.Buffer
import SourceUnit.Decimal
import SourceUnit.Diagnostic
import SourceUnit.Digest
import SourceUnit.Engine
import SourceUnit.Engine.Standard
import SourceUnit.Error
import SourceUnit.Fault
import SourceUnit.Files
import SourceUnit.Grammar.Call
import SourceUnit.Grammar.Compound
import SourceUnit.Grammar.Conditional
import SourceUnit.Grammar.Escape
import SourceUnit.Grammar.Expression
import SourceUnit.Grammar.File
import SourceUnit.Grammar.Kind
import SourceUnit.Grammar.Lexeme
import SourceUnit.Grammar.Numeral
import SourceUnit.Grammar.Parameter
import SourceUnit.Grammar.Parser
import SourceUnit.Grammar.Pattern
import SourceUnit.Grammar.Run
import SourceUnit.Grammar.Scanner
import SourceUnit.Grammar.Statement
import SourceUnit.Grammar.StringLiteral
import SourceUnit.Grammar.Target
import SourceUnit.Grammar.Tree
import SourceUnit.Lexer
import SourceUnit.Lexer.Match
import SourceUnit.Log
import SourceUnit.Node
import SourceUnit.Node.Numbering
import SourceUnit.Node.Table
import SourceUnit.ParsedUnit
import SourceUnit.ParsedUnit.CommentConfig
import SourceUnit.ParsedUnit.Find
import SourceUnit.ParsedUnit.Slice
import SourceUnit.Policy
import SourceUnit.Problem
import SourceUnit.Registry
import SourceUnit.Release
import SourceUnit.Release.Parse
import SourceUnit.Replay
import SourceUnit.Settings
import SourceUnit.Settings.EnvFile
import SourceUnit.Span
import SourceUnit.SyntaxTree
import SourceUnit.SyntaxTree.Segment
import SourceUnit.Text.Class.Blank
import SourceUnit.Text.Class.Capital
import SourceUnit.Text.Class.Digit
import SourceUnit.Text.Class.Identifier
import SourceUnit.Text.Class.Printable
import SourceUnit.Text.Class.Ranges
import SourceUnit.Text.Class.Word
import SourceUnit.Text.CodePoint
import SourceUnit.Text.Line
import SourceUnit.Text.Quoted
import SourceUnit.Text.Utf8
import SourceUnit.Token
import SourceUnit.Value
import SourceUnit.Proofs.Account
import SourceUnit.Proofs.Construction
import SourceUnit.Proofs.PolicyFlags
import SourceUnit.Proofs.Innermost
import SourceUnit.Proofs.CommentPlacement
import SourceUnit.Proofs.Utf8
import SourceUnit.Proofs.Lines
import SourceUnit.Proofs.NodeText
import SourceUnit.Proofs.SourceText
import SourceUnit.Proofs.Verdict
import SourceUnit.SyntaxTree.Query
import SourceUnit.Proofs.TreeHistory
import SourceUnit.Proofs.Containment
import SourceUnit.Proofs.BufferMemory
import SourceUnit.Proofs.Spelling
import SourceUnit.Proofs.Chunks
import SourceUnit.Proofs.TokenPlaces
import SourceUnit.Proofs.RegistryHistory
import SourceUnit.Proofs.StrictUtf8
import SourceUnit.Proofs.CommentTokens
import SourceUnit.Proofs.KeptLines
import SourceUnit.Proofs.RegistrySupport
import SourceUnit.Proofs.Unfolding
import SourceUnit.Proofs.WalkOrder
import SourceUnit.Proofs.ParentLinks
import SourceUnit.Proofs.Descent
import SourceUnit.Proofs.CommentGroups
import SourceUnit.Proofs.TolerantUtf8
import SourceUnit.Proofs.Checksum
import SourceUnit.Proofs.LineSplitting
import SourceUnit.Proofs.MarkerCut
import SourceUnit.Proofs.ReleaseNames
import SourceUnit.Proofs.ReportedSpans
