import ScriptLexer.Command.Failure
import ScriptLexer.Command.Plan
import ScriptLexer.Lexing

set_option autoImplicit false

/-! # Responses

What a command leaves behind: the text on its output, the text on its error output and its exit
code. The file also holds the lines that both commands write: tokens, and the notes that go to
the error output if details are asked for. -/

namespace ScriptLexer

/-- What a command leaves behind. -/
structure Response where
  /-- The exit code. -/
  exitCode : Nat
  /-- The text on the output. -/
  output : Text
  /-- The text on the error output. -/
  errors : Text
deriving DecidableEq, Repr

namespace Settings

/-- Notes on the error output, if details are asked for. -/
def notes (settings : Settings) (lines : List Text) : List Text :=
  if settings.verbose then lines.map ("DEBUG: ".toList ++ ·) else []

/-- How a truth value is written in a note. -/
def truthText (value : Bool) : Text := if value then "True".toList else "False".toList

/-- The note that describes the dialect. -/
def dialectNote (settings : Settings) : Text :=
  "lexer config: alphabet=".toList ++ settings.dialect.alphabet.quoted ++
    " case_insensitive=".toList ++ truthText settings.dialect.caseInsensitive ++
    " operators=".toList ++ truthText settings.dialect.operators

/-- The note that tells how many tokens there are. -/
def countNote (tokens : List LocatedToken) : Text :=
  Text.ofNat tokens.length ++ " token(s)".toList

/-- The lines that show tokens. -/
def tokenLines (settings : Settings) (tokens : List LocatedToken) : List Text :=
  tokens.map (·.line settings.positions)

end Settings

end ScriptLexer
