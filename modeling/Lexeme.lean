import Lexeme.Command.Check
import Lexeme.Command.Count
import Lexeme.Command.Failure
import Lexeme.Command.Init
import Lexeme.Command.Input
import Lexeme.Command.Tokens
import Lexeme.Command.Transcript
import Lexeme.CommandLine.Arguments
import Lexeme.CommandLine.Environment
import Lexeme.CommandLine.Program
import Lexeme.Diagnostic.Basic
import Lexeme.Diagnostic.Code
import Lexeme.Diagnostic.Handler
import Lexeme.FileTree.Basic
import Lexeme.FileTree.Path
import Lexeme.Json
import Lexeme.Log.Event
import Lexeme.Main
import Lexeme.Proofs.CharClass
import Lexeme.Proofs.Coverage
import Lexeme.Proofs.Initialization
import Lexeme.Proofs.Interleaving
import Lexeme.Proofs.MaximalMunch
import Lexeme.Proofs.Place
import Lexeme.Proofs.Problems
import Lexeme.Proofs.Shape
import Lexeme.Proofs.Stream
import Lexeme.Scan.Cursor
import Lexeme.Scan.Lexer
import Lexeme.Scan.Piece
import Lexeme.Scan.Problem
import Lexeme.Scan.Session
import Lexeme.Settings.Basic
import Lexeme.Settings.Store
import Lexeme.Source.Error
import Lexeme.Source.File
import Lexeme.Source.Snippet
import Lexeme.Source.Span
import Lexeme.Text.BlankTable
import Lexeme.Text.Bytes
import Lexeme.Text.CharClass
import Lexeme.Text.CodeTable
import Lexeme.Text.Decimal
import Lexeme.Text.DigitTable
import Lexeme.Text.EscapeTable
import Lexeme.Text.LetterTable
import Lexeme.Text.Quoted
import Lexeme.Text.Split
import Lexeme.Text.Terminal
import Lexeme.Token.Basic
import Lexeme.Token.Kind
import Lexeme.Token.Tally
import Lexeme.Toml.Date
import Lexeme.Toml.Document
import Lexeme.Toml.Number
import Lexeme.Toml.Quoted
import Lexeme.Toml.Statement
import Lexeme.Toml.Value
import Lexeme.Proofs.Concatenation
import Lexeme.Proofs.LineIndex
import Lexeme.Proofs.RoundTrip
import Lexeme.Proofs.Agreement
import Lexeme.Proofs.Reports
import Lexeme.Proofs.Rejection
import Lexeme.Proofs.Checking
import Lexeme.Proofs.Verdict
import Lexeme.Proofs.Carets
import Lexeme.Proofs.Lexemes
import Lexeme.Proofs.Logs
import Lexeme.Proofs.Tallies
import Lexeme.Proofs.Collecting
import Lexeme.Proofs.Walks
import Lexeme.Proofs.Directories
import Lexeme.Proofs.SettingsFile
import Lexeme.Proofs.Overwriting
import Lexeme.Proofs.JsonText
import Lexeme.Proofs.Layout
import Lexeme.Proofs.Listings
import Lexeme.Proofs.Display
import Lexeme.Proofs.Alignment
import Lexeme.Proofs.Lookahead
import Lexeme.Proofs.Moves
import Lexeme.Proofs.Scanners
import Lexeme.Scan.Counter
import Lexeme.Scan.Scanners
import Lexeme.Proofs.Lines
import Lexeme.Proofs.Ranges
import Lexeme.Proofs.Limits
