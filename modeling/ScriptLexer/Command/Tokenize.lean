import ScriptLexer.Command.Path
import ScriptLexer.Command.Response
import ScriptLexer.Text.Utf8

set_option autoImplicit false

/-! # A file as a whole

The command that reads a file lexes all of it and shows its tokens, or shows nothing and fails:
because the file is not UTF-8, or because its text is at fault. -/

namespace ScriptLexer.Tokenize

/-- The note that tells how much has been read. -/
def readNote (source file : Text) : Text :=
  "read ".toList ++ Text.ofNat source.length ++ " character(s) from ".toList ++ Path.tidy file

/-- What a failure leaves behind, after notes. -/
def failed (settings : Settings) (notes : List Text) (failure : Failure) : Response :=
  ⟨failure.exitCode, [],
    Text.terminateLines (settings.notes notes ++ failure.lines settings.verbose)⟩

/-- What the command leaves behind for a file that holds the bytes. -/
def run (settings : Settings) (file : Text) (bytes : List UInt8) : Response :=
  match Utf8.decodeFile bytes with
  | .error fault => failed settings [] (.badValue fault.message)
  | .ok source =>
    let notes := [readNote source file, settings.dialectNote]
    match settings.dialect.tokenize source with
    | .error diagnostic => failed settings notes (.lexing diagnostic)
    | .ok tokens =>
      ⟨0, Text.terminateLines (settings.tokenLines tokens),
        Text.terminateLines (settings.notes (notes ++ [Settings.countNote tokens]))⟩

end ScriptLexer.Tokenize
