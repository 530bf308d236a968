import ScriptLexer.Text.Basic

set_option autoImplicit false

/-! # Paths

A path is a list of steps with slashes between them, and it starts at the root if it starts
with a slash. An empty step and a single dot stay where they are. A path is shown without them;
a step back stays, since only the file system knows where it leads. -/

namespace ScriptLexer.Path

/-- The steps of a path, those that stay where they are included. -/
def steps (path : Text) : List Text := path.splitOnP (· == '/')

/-- The step stays where it is. -/
def stays (step : Text) : Bool := step.isEmpty || step == ['.']

/-- The step leads back to where a directory is in. -/
def leadsBack (step : Text) : Bool := step == ['.', '.']

/-- The path starts at the root. -/
def isAbsolute (path : Text) : Bool := path.head? == some '/'

/-- What a path is shown to start with: two slashes alone are kept, and any other number of them
is one. -/
def root : Text → Text
  | '/' :: '/' :: '/' :: _ => ['/']
  | '/' :: '/' :: _ => ['/', '/']
  | '/' :: _ => ['/']
  | _ => []

/-- The path without the steps that stay where they are. -/
def tidy (path : Text) : Text :=
  let shown := root path ++ ['/'].intercalate ((steps path).filter (!stays ·))
  if shown.isEmpty then ['.'] else shown

end ScriptLexer.Path
