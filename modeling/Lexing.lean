import Lexing.Event
import Lexing.Main
import Lexing.Scanner.Session
import Lexing.Proofs.Text.Stretch
import Lexing.Proofs.Scan.Behind
import Lexing.Proofs.Scan.Pulls
import Lexing.Proofs.Scan.Tiling
import Lexing.Proofs.Literal.Grammar
import Lexing.Proofs.Literal.LineEnd
import Lexing.Proofs.Literal.Acceptance
import Lexing.Proofs.Lexeme.Front
import Lexing.Proofs.Lexeme.Context
import Lexing.Proofs.Lexeme.LongestMatch
import Lexing.Proofs.Tokens.Shift
import Lexing.Proofs.Tokens.LineFeed
import Lexing.Proofs.Lexeme.Division
import Lexing.Proofs.Scan.Placement
import Lexing.Proofs.Scan.Lines
import Lexing.Proofs.Scan.Locality
import Lexing.Proofs.Literal.Unclosed
import Lexing.Proofs.Lexeme.Neighbour
import Lexing.Proofs.Tokens.Respacing
import Lexing.Proofs.Text.Lines
import Lexing.Proofs.Scan.LineLookup
import Lexing.Proofs.Scan.Sessions
import Lexing.Proofs.Lexeme.Faults
import Lexing.Proofs.Diagnostic.Drawing
import Lexing.Proofs.Diagnostic.Caret
import Lexing.Proofs.Literal.Decimal
import Lexing.Proofs.Tokens.Relaxation
import Lexing.Proofs.CommandLine.Agreement
import Lexing.Proofs.Tokens.CarriageReturn
import Lexing.Proofs.Text.LineOfByte
import Lexing.Proofs.Diagnostic.Layout
import Lexing.Proofs.Tokens.Standalone
import Lexing.Proofs.Tokens.Underscore
import Lexing.Proofs.Tokens.Verdict
import Lexing.Proofs.Literal.Canonical
import Lexing.Proofs.Tokens.LetterCase
import Lexing.Proofs.CommandLine.OutputLines
import Lexing.Proofs.Cursor.Calls
