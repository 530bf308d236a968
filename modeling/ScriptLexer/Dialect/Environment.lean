import ScriptLexer.Dialect.Basic
import ScriptLexer.Text.Blank
import ScriptLexer.Text.Lowercase

set_option autoImplicit false

/-! # Dialects from settings

A dialect can be named, and it can be put together from the settings of an environment: the
name of the dialect to start from, then another alphabet, then a switch for regard to case.
Each setting that is there makes a dialect of its own, which has to be accepted before the next
one is looked at; an empty setting counts as absent. -/

namespace ScriptLexer

/-- The settings of an environment. -/
structure Environment where
  /-- The name of the dialect to start from. -/
  variant? : Option Text
  /-- The alphabet that replaces the one of that dialect. -/
  alphabet? : Option Text
  /-- The word that switches regard to case. -/
  caseSwitch? : Option Text
deriving DecidableEq, Repr

/-- The environment without settings. -/
def Environment.empty : Environment := ⟨none, none, none⟩

namespace Dialect

/-- The dialects that have a name. -/
def names : List (Text × Dialect) := [("full".toList, full), ("reduced".toList, reduced)]

/-- The dialect with a name, in any case. -/
def named (name : Text) : Except Fault Dialect :=
  match names.lookup (Text.lowercase name) with
  | some dialect => .ok dialect
  | none => .error (.unknownName name)

/-- The words that say that case does not matter. -/
def onWords : List Text := ["1".toList, "true".toList, "yes".toList, "on".toList]

/-- The words that say that case matters. -/
def offWords : List Text := ["0".toList, "false".toList, "no".toList, "off".toList]

/-- What a switch says, blanks around it and its case left aside. -/
def readSwitch (setting : Text) : Except Fault Bool :=
  let word := Text.lowercase (Text.strip setting)
  if onWords.contains word then .ok true
  else if offWords.contains word then .ok false
  else .error (.unknownSwitch word)

/-- A setting that is there and not empty. -/
def given (setting? : Option Text) : Option Text := setting?.filter (!·.isEmpty)

/-- The dialect that the settings of an environment describe. -/
def ofEnvironment (environment : Environment) : Except Fault Dialect := do
  let base ←
    match given environment.variant? with
    | none => pure full
    | some name => named name
  let lettered ←
    match given environment.alphabet? with
    | none => pure base
    | some alphabet => make alphabet base.caseInsensitive base.operators
  match given environment.caseSwitch? with
  | none => pure lettered
  | some setting =>
    let caseInsensitive ← readSwitch setting
    make lettered.alphabet caseInsensitive lettered.operators

end Dialect

end ScriptLexer
