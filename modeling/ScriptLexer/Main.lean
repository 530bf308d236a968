import ScriptLexer.Command.Invocation

set_option autoImplicit false

/-! # The program

The outermost layer: it looks at the arguments, the environment, the files and the input of the
machine, lets the library decide what is to be done and said, and writes that. Lines are
answered as they are typed. -/

namespace ScriptLexer.Program

/-- The settings that the environment of the machine holds. -/
def readEnvironment : IO Environment := do
  let setting (name : String) : IO (Option Text) := do
    return (← IO.getEnv name).map (·.toList)
  return ⟨← setting "KUM_LEXER_VARIANT", ← setting "KUM_LEXER_ALPHABET",
    ← setting "KUM_LEXER_CASE_INSENSITIVE"⟩

/-- What an open file is: what cannot be read is a directory. -/
def kindOfHandle (handle : IO.FS.Handle) : IO FileKind := do
  try
    let _ ← handle.read 1
    return .file
  catch _ => return .directory

/-- What a name stands for in the file system of the machine. -/
def kindOf (name : String) : IO FileKind := do
  try
    kindOfHandle (← IO.FS.Handle.mk name .read)
  catch error =>
    match error with
    | .permissionDenied .. => return .file
    | _ => return .absent

/-- The content of a file, or why it cannot be read. -/
def readFile (name : String) : IO (Except Failure (List UInt8)) := do
  try
    return .ok (← IO.FS.readBinFile name).toList
  catch error =>
    match error with
    | .noFileOrDirectory .. => return .error (.missingFile name.toList)
    | .permissionDenied .. => return .error (.deniedFile name.toList)
    | _ => return .error (.internal "I/O error".toList (toString error).toList)

/-- Writes a text and sees to it that it is out. -/
def put (stream : IO.FS.Stream) (text : Text) : IO Unit := do
  stream.putStr (String.ofList text)
  stream.flush

/-- Writes what a command leaves behind, and passes on its exit code. -/
def respond (response : Response) : IO UInt32 := do
  put (← IO.getStdout) response.output
  put (← IO.getStderr) response.errors
  return response.exitCode.toUInt32

/-- Answers lines, with a prompt after each, until one of them asks to leave; tells whether the
last prompt is still to be answered. -/
def answerLines (settings : Settings) : List Text → IO Bool
  | [] => return true
  | line :: lines => do
    if Repl.asksToLeave line then return false
    let answer := Repl.answer settings line
    put (← IO.getStderr) (Text.terminateLines answer.notes)
    put (← IO.getStdout) (Text.terminateLines answer.output ++ Repl.prompt)
    answerLines settings lines

/-- Reads and answers lines up to the end of the input or the line that asks to leave. A line
that is read up to its line feed may hold several lines that end with carriage returns. -/
partial def converse (settings : Settings) : IO Unit := do
  let read ← (← IO.getStdin).getLine
  if read.isEmpty then put (← IO.getStdout) [Text.lineFeed]
  else if ← answerLines settings (Text.lines read.toList) then converse settings

/-- Runs the program on the machine. -/
def run (arguments : List String) : IO UInt32 := do
  let environment ← readEnvironment
  let kinds ← arguments.mapM fun name => return (name.toList, ← kindOf name)
  let kindOfName (name : Text) : FileKind := (kinds.lookup name).getD .absent
  match Plan.ofCall kindOfName environment (arguments.map (·.toList)) with
  | .error error => respond (Invocation.refused error)
  | .ok .version => respond Invocation.versionShown
  | .ok (.usage scope) => respond (Invocation.usageShown scope)
  | .ok (.tokenize settings file) =>
    match ← readFile (String.ofList file) with
    | .ok bytes => respond (Tokenize.run settings file bytes)
    | .error failure => respond (Tokenize.failed settings [] failure)
  | .ok (.repl settings) =>
    put (← IO.getStderr) (Text.terminateLines (settings.notes [settings.dialectNote]))
    put (← IO.getStdout) Repl.prompt
    converse settings
    return 0

end ScriptLexer.Program

/-- The entry point of the program. -/
def main (arguments : List String) : IO UInt32 := ScriptLexer.Program.run arguments
