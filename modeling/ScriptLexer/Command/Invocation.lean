import ScriptLexer.Command.Entry
import ScriptLexer.Command.Repl
import ScriptLexer.Command.Tokenize

set_option autoImplicit false

/-! # Invocations

A call of the program together with the world it is made in: the settings of the environment,
the text on its input, and the files that its arguments may name. -/

namespace ScriptLexer

/-- A call of the program in its world. -/
structure Invocation where
  /-- The arguments. -/
  arguments : List Text
  /-- The settings. -/
  environment : Environment
  /-- The text on the input. -/
  input : Text
  /-- What names stand for. -/
  entry : Text → Entry

namespace Invocation

/-- The line that tells the version. -/
def versionLine : Text := "kum, version 1.0.0".toList

/-- What the call asks for. -/
def plan (invocation : Invocation) : Except UsageError Plan :=
  Plan.ofCall (fun name => (invocation.entry name).kind) invocation.environment
    invocation.arguments

/-- What a call that cannot be understood leaves behind. -/
def refused (error : UsageError) : Response :=
  ⟨UsageError.exitCode, [], Text.terminateLines error.lines⟩

/-- What a call for the version leaves behind. -/
def versionShown : Response := ⟨0, Text.terminateLines [versionLine], []⟩

/-- What a call for instructions leaves behind. -/
def usageShown (scope : Scope) : Response := ⟨0, Text.terminateLines [scope.usage], []⟩

/-- What the call leaves behind. -/
def run (invocation : Invocation) : Response :=
  match invocation.plan with
  | .error error => refused error
  | .ok .version => versionShown
  | .ok (.usage scope) => usageShown scope
  | .ok (.repl settings) => Repl.run settings invocation.input
  | .ok (.tokenize settings file) =>
    Tokenize.run settings file (invocation.entry file).content

end Invocation

end ScriptLexer
