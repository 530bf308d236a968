import ScriptLexer.Command.Arguments
import ScriptLexer.Dialect.Environment
import ScriptLexer.Text.ControlSequence
import ScriptLexer.Text.Quoted

set_option autoImplicit false

/-! # Usage errors

A call that cannot be understood is answered by a reminder of how the command is used and the
reason, with exit code 2. An option that lacks its value, or has one it does not take, is
answered by the reason alone. -/

namespace ScriptLexer

/-- The command that a call, or a part of it, is addressed to. -/
inductive Scope where
  /-- The program as a whole. -/
  | program
  /-- The command that reads lines. -/
  | repl
  /-- The command that reads a file. -/
  | tokenize
deriving DecidableEq, Repr

namespace Scope

/-- How the command is called. -/
def path : Scope → Text
  | .program => "kum".toList
  | .repl => "kum repl".toList
  | .tokenize => "kum tokenize".toList

/-- What may follow the command in a call. -/
def operands : Scope → Text
  | .program => "[OPTIONS] COMMAND [ARGS]...".toList
  | .repl => "[OPTIONS]".toList
  | .tokenize => "[OPTIONS] INPUT_FILE".toList

/-- The line that tells how the command is used. -/
def usage (scope : Scope) : Text := "Usage: ".toList ++ scope.path ++ ' ' :: scope.operands

/-- The line that tells where there is more to read. -/
def pointer (scope : Scope) : Text := "Try '".toList ++ scope.path ++ " --help' for help.".toList

/-- The options of the command. -/
def options : Scope → List OptionName
  | .program => [.variant, .verbose, .version, .help]
  | .repl | .tokenize => [.locations, .help]

end Scope

/-- Why a call cannot be understood. -/
inductive UsageFault where
  /-- The options are at fault. -/
  | arguments (fault : ArgumentFault)
  /-- No dialect has the name that was given. -/
  | unknownVariant (name : Text)
  /-- No command is given. -/
  | missingCommand
  /-- There is no such command. -/
  | unknownCommand (name : Text)
  /-- The settings of the environment make no dialect. -/
  | settings (fault : Dialect.Fault)
  /-- No file is named. -/
  | missingFile
  /-- There is no such file. -/
  | noSuchFile (name : Text)
  /-- The file is a directory. -/
  | directory (name : Text)
  /-- There are operands left over. -/
  | extraOperands (operands : List Text)
deriving DecidableEq, Repr

namespace UsageFault

/-- How a fault is put into words. -/
def message : UsageFault → Text
  | .arguments (.unknownOption name) => "No such option: ".toList ++ name
  | .arguments (.unexpectedValue name) =>
    "Option ".toList ++ name.quoted ++ " does not take a value.".toList
  | .arguments (.missingValue name) =>
    "Option ".toList ++ name.quoted ++ " requires an argument.".toList
  | .unknownVariant name =>
    "Invalid value for '--variant': ".toList ++ name.quoted ++
      " is not one of 'full', 'reduced'.".toList
  | .missingCommand => "Missing command.".toList
  | .unknownCommand name => "No such command ".toList ++ name.quoted ++ ['.']
  | .settings fault => "Invalid value for KUM_LEXER_*: ".toList ++ fault.message
  | .missingFile => "Missing argument 'INPUT_FILE'.".toList
  | .noSuchFile name =>
    "Invalid value for 'INPUT_FILE': File ".toList ++ name.quoted ++ " does not exist.".toList
  | .directory name =>
    "Invalid value for 'INPUT_FILE': File ".toList ++ name.quoted ++ " is a directory.".toList
  | .extraOperands operands =>
    (if operands.length = 1 then "Got unexpected extra argument (".toList
      else "Got unexpected extra arguments (".toList) ++ [' '].intercalate operands ++ [')']

/-- The answer to the fault comes with a reminder of how the command is used. -/
def remindsOfUsage : UsageFault → Bool
  | .arguments (.unexpectedValue _) | .arguments (.missingValue _) => false
  | _ => true

end UsageFault

/-- Why a call cannot be understood, and which command it is addressed to. -/
structure UsageError where
  /-- The command. -/
  scope : Scope
  /-- The reason. -/
  fault : UsageFault
deriving DecidableEq, Repr

namespace UsageError

/-- The exit code that goes with a usage error. -/
def exitCode : Nat := 2

/-- The lines that answer a usage error, without the control sequences a message may hold. -/
def lines (error : UsageError) : List Text :=
  (if error.fault.remindsOfUsage then [error.scope.usage, error.scope.pointer, []] else []) ++
    ["Error: ".toList ++ error.fault.message.plain]

end UsageError

end ScriptLexer
