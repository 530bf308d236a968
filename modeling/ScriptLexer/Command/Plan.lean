import ScriptLexer.Command.Entry
import ScriptLexer.Command.Usage

set_option autoImplicit false

/-! # Plans

What a call asks for, found out from its arguments, the environment and the kinds of the files
that it names, before anything is read or lexed. A call is judged from left to right: first the
options of the program and the name of the command, then the settings, which count only if no
dialect is named, and last the arguments of the command itself. -/

namespace ScriptLexer

/-- How the commands lex and what they show. -/
structure Settings where
  /-- The dialect of the programs. -/
  dialect : Dialect
  /-- Details are asked for. -/
  verbose : Bool
  /-- Positions are asked for. -/
  positions : Bool
deriving DecidableEq

/-- What a call asks for. -/
inductive Plan where
  /-- To show the version. -/
  | version
  /-- To show how a command is used. -/
  | usage (scope : Scope)
  /-- To lex lines one by one. -/
  | repl (settings : Settings)
  /-- To lex a file. -/
  | tokenize (settings : Settings) (file : Text)
deriving DecidableEq

namespace Plan

/-- Tells the arguments of a command apart. -/
def readFor (scope : Scope) (arguments : List Text) : Except UsageError Arguments :=
  match Arguments.read scope.options (scope == .program) arguments with
  | .ok read => .ok read
  | .error fault => .error ⟨scope, .arguments fault⟩

/-- What an option asks for that makes all other arguments idle. -/
def ofEager? (scope : Scope) (read : Arguments) : Option Plan :=
  (read.firstOf? [.version, .help]).map fun name =>
    if name == .version then .version else .usage scope

/-- The dialect that the options of the program name, if they do. -/
def variant? (read : Arguments) : Except UsageError (Option Dialect) :=
  match read.lastValue? .variant with
  | none => .ok none
  | some name =>
    match Dialect.named name with
    | .ok dialect => .ok (some dialect)
    | .error _ => .error ⟨.program, .unknownVariant name⟩

/-- The dialect of a call: the one that is named, else the one of the settings. -/
def dialect (named? : Option Dialect) (environment : Environment) : Except UsageError Dialect :=
  match named? with
  | some dialect => .ok dialect
  | none =>
    match Dialect.ofEnvironment environment with
    | .ok dialect => .ok dialect
    | .error fault => .error ⟨.program, .settings fault⟩

/-- The commands of the program. -/
def commands : List (Text × Scope) := [("repl".toList, .repl), ("tokenize".toList, .tokenize)]

/-- The plan for a call whose command does not exist. What stands in its place is looked at as
an argument of the program once more, and only then refused. -/
def ofUnknownCommand (operands : List Text) (name : Text) : Except UsageError Plan := do
  let read ← readFor .program operands
  match ofEager? .program read with
  | some plan => pure plan
  | none =>
    let _ ← variant? read
    .error ⟨.program, .unknownCommand name⟩

/-- The plan of the command that reads lines. -/
def ofRepl (dialect : Dialect) (verbose : Bool) (arguments : List Text) :
    Except UsageError Plan := do
  let read ← readFor .repl arguments
  match ofEager? .repl read with
  | some plan => pure plan
  | none =>
    match read.operands with
    | [] => pure (.repl ⟨dialect, verbose, read.has .locations⟩)
    | extra => .error ⟨.repl, .extraOperands extra⟩

/-- The plan of the command that reads a file. -/
def ofTokenize (kindOf : Text → FileKind) (dialect : Dialect) (verbose : Bool)
    (arguments : List Text) : Except UsageError Plan := do
  let read ← readFor .tokenize arguments
  match ofEager? .tokenize read with
  | some plan => pure plan
  | none =>
    match read.operands with
    | [] => .error ⟨.tokenize, .missingFile⟩
    | file :: extra =>
      match kindOf file with
      | .absent => .error ⟨.tokenize, .noSuchFile file⟩
      | .directory => .error ⟨.tokenize, .directory file⟩
      | .file =>
        if extra.isEmpty then pure (.tokenize ⟨dialect, verbose, read.has .locations⟩ file)
        else .error ⟨.tokenize, .extraOperands extra⟩

/-- The plan of a call. -/
def ofCall (kindOf : Text → FileKind) (environment : Environment) (arguments : List Text) :
    Except UsageError Plan := do
  if arguments.isEmpty then return .usage .program
  let read ← readFor .program arguments
  match ofEager? .program read with
  | some plan => pure plan
  | none =>
    let named? ← variant? read
    match read.operands with
    | [] => .error ⟨.program, .missingCommand⟩
    | name :: rest =>
      match commands.lookup name with
      | none => ofUnknownCommand (name :: rest) name
      | some scope =>
        let dialect ← dialect named? environment
        if scope == .repl then ofRepl dialect (read.has .verbose) rest
        else ofTokenize kindOf dialect (read.has .verbose) rest

end Plan

end ScriptLexer
