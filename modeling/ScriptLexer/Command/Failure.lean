import ScriptLexer.Diagnostic
import ScriptLexer.Text.ControlSequence
import ScriptLexer.Text.Quoted

set_option autoImplicit false

/-! # Failures of a command

What can end a command early, the words for it, and the exit code that goes with it: 1 if the
program text is at fault, 2 if the arguments or the file are, and 3 for anything else, which
is an internal error and is named with its kind if details are asked for. -/

namespace ScriptLexer

/-- What ends a command early. -/
inductive Failure where
  /-- A failure of the tools that has no place in a text. -/
  | general (message : Text)
  /-- The text of a program is at fault. -/
  | lexing (diagnostic : Diagnostic)
  /-- A value that was given is not acceptable. -/
  | badValue (message : Text)
  /-- There is no such file. -/
  | missingFile (name : Text)
  /-- The file must not be read. -/
  | deniedFile (name : Text)
  /-- Anything else, with its kind. -/
  | internal (kind message : Text)
deriving DecidableEq, Repr

namespace Failure

/-- The exit code that goes with a failure. -/
def exitCode : Failure → Nat
  | .general _ | .lexing _ => 1
  | .badValue _ | .missingFile _ | .deniedFile _ => 2
  | .internal _ _ => 3

/-- How a failure is put into words, a diagnostic at length if details are asked for. -/
def message (verbose : Bool) : Failure → Text
  | .general message => message
  | .lexing diagnostic => diagnostic.shown verbose
  | .badValue message => message
  | .missingFile name => "[Errno 2] No such file or directory: ".toList ++ name.quoted
  | .deniedFile name => "[Errno 13] Permission denied: ".toList ++ name.quoted
  | .internal _ message => message

/-- The kind of a failure, with its message if there is one. -/
def kindLine (kind message : Text) : Text :=
  if message.isEmpty then kind else kind ++ ": ".toList ++ message

/-- The lines that report a failure, without the control sequences a message may hold. The line
that names the kind of an internal error shows the message as it is. -/
def lines (verbose : Bool) (failure : Failure) : List Text :=
  let message := failure.message verbose
  match failure with
  | .general _ | .lexing _ => [message.plain]
  | .badValue _ | .missingFile _ | .deniedFile _ => ["Error: ".toList ++ message.plain]
  | .internal kind _ =>
    ("Internal error: ".toList ++ message.plain) ::
      if verbose then [kindLine kind message] else []

end Failure

end ScriptLexer
