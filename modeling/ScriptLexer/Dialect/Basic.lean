import ScriptLexer.LetterClass
import ScriptLexer.Position
import ScriptLexer.Text.Uppercase

set_option autoImplicit false

/-! # Dialects

A dialect is the lexical surface of the language: which characters make identifiers, whether
their upper case does too, and whether there are operators. Two dialects have names, the full
and the reduced one; any other is made from an alphabet. An alphabet is accepted if it is not
empty, does not start with a caret, holds neither a closing bracket nor a backslash, and has no
reversed range, where a dialect without regard to case is judged together with the upper-case
alphabet it adds. -/

namespace ScriptLexer

namespace Dialect

/-- The class text of the letters: the alphabet, and after it the upper-case alphabet if case
does not matter. -/
def letterClass (alphabet : Text) (caseInsensitive : Bool) : Text :=
  if caseInsensitive then alphabet ++ Text.uppercase alphabet else alphabet

/-- Why there is no such dialect. -/
inductive Fault where
  /-- The alphabet is empty. -/
  | emptyAlphabet
  /-- The alphabet starts with a caret. -/
  | leadingCaret (alphabet : Text)
  /-- The alphabet holds a closing bracket or a backslash. -/
  | reservedCharacter (alphabet : Text)
  /-- A range of the class text made from the alphabet runs backwards. -/
  | reversedRange (alphabet classText : Text) (range : ReversedRange)
  /-- No dialect has this name. -/
  | unknownName (name : Text)
  /-- The word is none of those that switch regard to case on or off. -/
  | unknownSwitch (word : Text)
deriving DecidableEq, Repr

/-- What is wrong with the alphabet of a dialect, if anything is. -/
def fault? (alphabet : Text) (caseInsensitive : Bool) : Option Fault :=
  if alphabet.isEmpty then some .emptyAlphabet
  else if alphabet.head? = some '^' then some (.leadingCaret alphabet)
  else if alphabet.any (fun c => c == ']' || c == Text.backslash) then
    some (.reservedCharacter alphabet)
  else
    let classText := letterClass alphabet caseInsensitive
    (ReversedRange.first? classText).map (.reversedRange alphabet classText)

end Dialect

/-- A dialect of the language, with an alphabet that is accepted. -/
structure Dialect where
  /-- The identifier letters as a class text. -/
  alphabet : Text
  /-- The upper case of the letters makes identifiers too. -/
  caseInsensitive : Bool
  /-- There are operators. -/
  operators : Bool
  /-- The alphabet is accepted. -/
  accepted : Dialect.fault? alphabet caseInsensitive = none
deriving DecidableEq

namespace Dialect

/-- The dialect with an alphabet, if that is accepted. -/
def make (alphabet : Text) (caseInsensitive operators : Bool) : Except Fault Dialect :=
  match h : fault? alphabet caseInsensitive with
  | none => .ok ⟨alphabet, caseInsensitive, operators, h⟩
  | some fault => .error fault

/-- Latin and Cyrillic letters in any case, and operators. -/
def full : Dialect := ⟨"a-zа-я".toList, true, true, by decide +kernel⟩

/-- Lower-case Cyrillic letters and no operators. -/
def reduced : Dialect := ⟨"а-я".toList, false, false, by decide +kernel⟩

/-- The class text of the identifier letters of a dialect. -/
def classText (dialect : Dialect) : Text :=
  letterClass dialect.alphabet dialect.caseInsensitive

/-- The items of the class text of a dialect. -/
def letterItems (dialect : Dialect) : List ClassItem := ClassItem.ofText dialect.classText

/-- The character is an identifier letter of the dialect. -/
def isLetter (dialect : Dialect) (c : Char) : Bool := dialect.letterItems.any (·.covers c)

/-! ## Messages -/

/-- Where a reversed range stands in the class text between its brackets: the index, and the
row and column too if the class text has a line feed. -/
def rangePlace (classText : Text) (offset : Nat) : Text :=
  let index := Text.ofNat (offset + 1)
  if classText.contains Text.lineFeed then
    let p := Position.start.past ('[' :: classText.take offset)
    index ++ " (line ".toList ++ Text.ofInt p.row ++ ", column ".toList ++ Text.ofInt p.col ++ [')']
  else index

/-- How a fault is put into words. -/
def Fault.message : Fault → Text
  | .emptyAlphabet => "identifier alphabet must not be empty".toList
  | .leadingCaret alphabet =>
    "identifier alphabet must not start with '^': ".toList ++ alphabet.inApostrophes
  | .reservedCharacter alphabet =>
    "identifier alphabet must not contain ']' or a backslash: ".toList ++ alphabet.inApostrophes
  | .reversedRange alphabet classText range =>
    "invalid identifier alphabet ".toList ++ alphabet.inApostrophes ++
      ": bad character range ".toList ++ (ClassItem.range range.low range.high).text ++
      " at position ".toList ++ rangePlace classText range.offset
  | .unknownName name =>
    "unknown lexer variant ".toList ++ name.inApostrophes ++
      " (expected one of: full, reduced)".toList
  | .unknownSwitch word =>
    "invalid value for KUM_LEXER_CASE_INSENSITIVE: ".toList ++ word.inApostrophes

end Dialect

end ScriptLexer
