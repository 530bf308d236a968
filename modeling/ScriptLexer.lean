import ScriptLexer.Lexing
import ScriptLexer.Command.FileTree
import ScriptLexer.Command.Invocation
import ScriptLexer.Main
import ScriptLexer.Proofs.Boundary
import ScriptLexer.Proofs.CaseInsensitive
import ScriptLexer.Proofs.Command.Agreement
import ScriptLexer.Proofs.Command.Output
import ScriptLexer.Proofs.Command.Repl
import ScriptLexer.Proofs.Command.Tokenize
import ScriptLexer.Proofs.Environment
import ScriptLexer.Proofs.Extension
import ScriptLexer.Proofs.Faithful
import ScriptLexer.Proofs.LargerDialect
import ScriptLexer.Proofs.LetterClass
import ScriptLexer.Proofs.LineFeeds
import ScriptLexer.Proofs.Literal.Encoding
import ScriptLexer.Proofs.Literal.EscapedBreak
import ScriptLexer.Proofs.Literal.Pieces
import ScriptLexer.Proofs.Locality
import ScriptLexer.Proofs.Number.CorrectRounding
import ScriptLexer.Proofs.Number.Denotes
import ScriptLexer.Proofs.Number.FewestDigits
import ScriptLexer.Proofs.Number.Nearest
import ScriptLexer.Proofs.Number.ReadBack
import ScriptLexer.Proofs.Number.Rounding
import ScriptLexer.Proofs.Number.Shown
import ScriptLexer.Proofs.Number.Value
import ScriptLexer.Proofs.Pointer
import ScriptLexer.Proofs.Positions
import ScriptLexer.Proofs.Renaming
import ScriptLexer.Proofs.Rendering
import ScriptLexer.Proofs.Returns
import ScriptLexer.Proofs.Rows
import ScriptLexer.Proofs.Separator
import ScriptLexer.Proofs.Shown
import ScriptLexer.Proofs.SingleRow
import ScriptLexer.Proofs.Text.Lines
import ScriptLexer.Proofs.Text.Quoted
import ScriptLexer.Proofs.Text.RowAround
import ScriptLexer.Proofs.Text.RowSplit
import ScriptLexer.Proofs.Text.Uppercase
import ScriptLexer.Proofs.UppercaseLetters
import ScriptLexer.Proofs.Validation
import ScriptLexer.Proofs.Walk
