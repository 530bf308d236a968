import ScriptLexer.Command.Response
import ScriptLexer.Text.Blank

set_option autoImplicit false

/-! # Lines one by one

The command that reads lines prompts for each of them, lexes it on its own and shows its tokens
or the reason why there are none, and goes on. It ends with the input or at the line that asks
for it, blanks around that aside. A line that fails is no failure of the command. -/

namespace ScriptLexer.Repl

/-- What is shown in front of each line. -/
def prompt : Text := "> ".toList

/-- The line that ends the command. -/
def leaveLine : Text := ":quit".toList

/-- The line asks to leave. -/
def asksToLeave (line : Text) : Bool := Text.strip line == leaveLine

/-- What one line is answered. -/
structure Answer where
  /-- The lines on the output. -/
  output : List Text
  /-- The notes on the error output. -/
  notes : List Text
deriving DecidableEq, Repr

/-- The answer to a line. -/
def answer (settings : Settings) (line : Text) : Answer :=
  match settings.dialect.tokenize line with
  | .ok tokens => ⟨settings.tokenLines tokens, settings.notes [Settings.countNote tokens]⟩
  | .error diagnostic => ⟨(Failure.lexing diagnostic).lines settings.verbose, []⟩

/-- What is on the output once the lines are read, the prompts included. -/
def output (settings : Settings) : List Text → Text
  | [] => prompt ++ [Text.lineFeed]
  | line :: lines =>
    if asksToLeave line then prompt
    else prompt ++ Text.terminateLines (answer settings line).output ++ output settings lines

/-- The notes on the lines up to the one that asks to leave. -/
def notes (settings : Settings) (lines : List Text) : List Text :=
  (lines.takeWhile (!asksToLeave ·)).flatMap fun line => (answer settings line).notes

/-- What the command leaves behind once it has read its input. -/
def run (settings : Settings) (input : Text) : Response :=
  let lines := Text.lines input
  ⟨0, output settings lines,
    Text.terminateLines (settings.notes [settings.dialectNote] ++ notes settings lines)⟩

end ScriptLexer.Repl
