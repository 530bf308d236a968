import ScriptLexer.Text.Basic

set_option autoImplicit false

/-! # Arguments

The arguments of a command are options and operands. An option is a long name or, if it has
one, a letter after a single hyphen; letters may be written together. An option that takes a
value finds it after an equals sign or as the next argument, whatever that looks like. Two
hyphens end the options. Options may stand between operands, or, where a command follows, only
in front of the first operand. -/

namespace ScriptLexer

/-- The options of all commands. -/
inductive OptionName where
  /-- The name of a dialect. -/
  | variant
  /-- Details are asked for. -/
  | verbose
  /-- Positions are asked for. -/
  | locations
  /-- The version is asked for. -/
  | version
  /-- Instructions are asked for. -/
  | help
deriving DecidableEq, Repr

namespace OptionName

/-- The long name of an option. -/
def long : OptionName → Text
  | .variant => "--variant".toList
  | .verbose => "--verbose".toList
  | .locations => "--locations".toList
  | .version => "--version".toList
  | .help => "--help".toList

/-- The letter of an option. -/
def letter? : OptionName → Option Char
  | .verbose => some 'v'
  | .locations => some 'l'
  | _ => none

/-- The option takes a value. -/
def takesValue : OptionName → Bool
  | .variant => true
  | _ => false

end OptionName

/-- What is wrong with the arguments of a command. -/
inductive ArgumentFault where
  /-- There is no such option. -/
  | unknownOption (name : Text)
  /-- The option has a value, and takes none. -/
  | unexpectedValue (name : Text)
  /-- The option takes a value, and has none. -/
  | missingValue (name : Text)
deriving DecidableEq, Repr

/-- The arguments of a command told apart. -/
structure Arguments where
  /-- The options in order, with their values. -/
  options : List (OptionName × Option Text)
  /-- The operands in order. -/
  operands : List Text
deriving DecidableEq, Repr

namespace Arguments

/-- The option has been given. -/
def has (arguments : Arguments) (name : OptionName) : Bool :=
  arguments.options.any (·.1 == name)

/-- The value that an option has been given last. -/
def lastValue? (arguments : Arguments) (name : OptionName) : Option Text :=
  (arguments.options.reverse.find? (·.1 == name)).bind (·.2)

/-- The first of some options that has been given. -/
def firstOf? (arguments : Arguments) (names : List OptionName) : Option OptionName :=
  (arguments.options.find? (names.contains ·.1)).map (·.1)

/-- The arguments with more options in front. -/
def withOptions (options : List (OptionName × Option Text)) (arguments : Arguments) : Arguments :=
  { arguments with options := options ++ arguments.options }

/-- The arguments with one more operand in front. -/
def withOperand (operand : Text) (arguments : Arguments) : Arguments :=
  { arguments with operands := operand :: arguments.operands }

/-- The argument looks like an option: a hyphen and something after it. -/
def looksLikeOption : Text → Bool
  | '-' :: _ :: _ => true
  | _ => false

/-- The argument can only be a long option. -/
def isLong : Text → Bool
  | '-' :: '-' :: _ => true
  | _ => false

/-- The value after the first equals sign of an argument. -/
def attachedValue? (argument : Text) : Option Text :=
  match argument.dropWhile (· != '=') with
  | [] => none
  | _ :: value => some value

/-- The options that letters written together stand for. -/
def readLetters (known : List OptionName) (letters : Text) :
    Except ArgumentFault (List (OptionName × Option Text)) :=
  letters.mapM fun letter =>
    match known.find? (·.letter? == some letter) with
    | some name => .ok (name, none)
    | none => .error (.unknownOption ['-', letter])

/-- Tells options and operands apart. If `commandFollows`, the first operand ends the options. -/
def read (known : List OptionName) (commandFollows : Bool) :
    List Text → Except ArgumentFault Arguments
  | [] => .ok ⟨[], []⟩
  | argument :: rest =>
    if argument = ['-', '-'] then .ok ⟨[], rest⟩
    else if looksLikeOption argument then
      let written := argument.takeWhile (· != '=')
      match known.find? (·.long == written) with
      | some name =>
        if name.takesValue then
          match attachedValue? argument with
          | some value => (read known commandFollows rest).map (withOptions [(name, some value)])
          | none =>
            match rest with
            | [] => .error (.missingValue written)
            | value :: rest =>
              (read known commandFollows rest).map (withOptions [(name, some value)])
        else if (attachedValue? argument).isSome then .error (.unexpectedValue written)
        else (read known commandFollows rest).map (withOptions [(name, none)])
      | none =>
        if isLong argument then .error (.unknownOption written)
        else
          match readLetters known (argument.drop 1) with
          | .error fault => .error fault
          | .ok options => (read known commandFollows rest).map (withOptions options)
    else if commandFollows then .ok ⟨[], argument :: rest⟩
    else (read known commandFollows rest).map (withOperand argument)

end Arguments

end ScriptLexer
