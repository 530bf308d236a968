import ScriptLexer.Literal.Reading
import ScriptLexer.Number.Numeral
import ScriptLexer.Token

set_option autoImplicit false

/-! # Scans

Five rules make tokens, one for each kind. A rule looks at the front of a text and finds that
its construct does not start there, or finds a token and the characters it is made of, or finds
that the construct starts there but is at fault. No rule looks at anything in front of that
text, and every token has at least one character. -/

namespace ScriptLexer

/-- What the rules need to know of a dialect. -/
structure Surface where
  /-- The characters that make identifiers. -/
  isLetter : Char → Bool
  /-- There are operators. -/
  operators : Bool

/-- What a rule finds where its construct starts. -/
inductive Scan where
  /-- A token and its lexeme, which is the text it is made of. -/
  | token (token : Token) (lexeme : Text)
  /-- A string literal at fault, and the characters before the place to point at. -/
  | faulty (fault : Literal.Fault) (passed : Text)
deriving DecidableEq, Repr

/-- The rules. -/
inductive Rule where
  /-- The longest run of letters. -/
  | identifier
  /-- The longest numeral. -/
  | number
  /-- A compound operator, else a simple one. -/
  | operator
  /-- A string literal. -/
  | string
  /-- A line feed, alone or after a carriage return. -/
  | lineBreak
deriving DecidableEq, Repr

namespace Rule

/-- The identifier at the front of a text. -/
def scanIdentifier (isLetter : Char → Bool) (text : Text) : Option Scan :=
  let name := text.takeWhile isLetter
  if name.isEmpty then none else some (.token (.identifier name) name)

/-- The number at the front of a text. -/
def scanNumber (text : Text) : Option Scan :=
  (Numeral.atFront? text).map fun numeral => .token (.number numeral.value) numeral.lexeme

/-- The operator at the front of a text. -/
def scanOperator (text : Text) : Option Scan :=
  (Operator.ofSymbol? (text.take 2) <|> Operator.ofSymbol? (text.take 1)).map
    fun op => .token (.operator op) op.symbol

/-- The string literal at the front of a text. -/
def scanString : Text → Option Scan
  | '\x27' :: rest =>
    match Literal.read rest with
    | .closed slices => some (.token (.string (Literal.value slices)) (Literal.lexeme slices))
    | .faulty fault passed => some (.faulty fault (Text.apostrophe :: passed))
  | _ => none

/-- The line break at the front of a text. -/
def scanLineBreak : Text → Option Scan
  | '\n' :: _ => some (.token .lineBreak [Text.lineFeed])
  | '\r' :: '\n' :: _ => some (.token .lineBreak [Text.carriageReturn, Text.lineFeed])
  | _ => none

/-- What a rule finds at the front of a text. -/
def scan (surface : Surface) : Rule → Text → Option Scan
  | .identifier => scanIdentifier surface.isLetter
  | .number => scanNumber
  | .operator => scanOperator
  | .string => scanString
  | .lineBreak => scanLineBreak

/-- The rules in the order in which they are tried. -/
def inOrder (surface : Surface) : List Rule :=
  [.identifier, .number] ++ (if surface.operators then [.operator] else []) ++
    [.string, .lineBreak]

/-! ## A rule at an index -/

/-- The rule asks for a character, so it cannot be tried at the end of a text. -/
def needsCharacter : Rule → Bool
  | .operator => true
  | .string => true
  | _ => false

/-- A rule was tried where there is no character. -/
inductive PastEnd where
  /-- The index is that of the end of the text. -/
  | pastEnd
deriving DecidableEq, Repr

/-- How that is put into words. -/
def PastEnd.message (_ : PastEnd) : Text := "string index out of range".toList

/-- What a rule finds in a text at an index. -/
def scanAt (surface : Surface) (rule : Rule) (text : Text) (index : Nat) :
    Except PastEnd (Option Scan) :=
  if rule.needsCharacter && decide (text.length ≤ index) then .error .pastEnd
  else .ok (rule.scan surface (text.drop index))

end Rule

namespace Surface

/-- What the first rule that applies finds at the front of a text. -/
def scan (surface : Surface) (text : Text) : Option Scan :=
  (Rule.inOrder surface).findSome? fun rule => rule.scan surface text

end Surface

/-! ## Every token has a character -/

namespace Scan

/-- The scan has found a token without characters. -/
def isVoid : Scan → Bool
  | .token _ lexeme => lexeme.isEmpty
  | .faulty _ passed => passed.isEmpty

end Scan

namespace Rule

theorem scanNumber_not_isVoid {text : Text} {found : Scan} (h : scanNumber text = some found) :
    found.isVoid = false := by
  obtain ⟨numeral, hn, rfl⟩ := Option.map_eq_some_iff.mp h
  simp only [Numeral.atFront?] at hn
  split at hn
  · simp at hn
  next hwhole =>
    obtain rfl := Option.some.inj hn
    simp only [Scan.isVoid, Numeral.lexeme]
    split <;> simp_all

theorem scanOperator_not_isVoid {text : Text} {found : Scan}
    (h : scanOperator text = some found) : found.isVoid = false := by
  obtain ⟨op, -, rfl⟩ := Option.map_eq_some_iff.mp h
  cases op <;> rfl

theorem scanString_not_isVoid {text : Text} {found : Scan} (h : scanString text = some found) :
    found.isVoid = false := by
  unfold scanString at h
  split at h
  · split at h <;> · obtain rfl := Option.some.inj h; rfl
  · simp at h

theorem scanLineBreak_not_isVoid {text : Text} {found : Scan}
    (h : scanLineBreak text = some found) : found.isVoid = false := by
  unfold scanLineBreak at h
  split at h
  · obtain rfl := Option.some.inj h; rfl
  · obtain rfl := Option.some.inj h; rfl
  · simp at h

/-- Whatever a rule finds has at least one character. -/
theorem scan_not_isVoid {surface : Surface} {rule : Rule} {text : Text} {found : Scan}
    (h : rule.scan surface text = some found) : found.isVoid = false := by
  cases rule with
  | identifier =>
      simp only [scan, scanIdentifier] at h
      split at h
      · simp at h
      next hname => obtain rfl := Option.some.inj h; simpa [Scan.isVoid] using hname
  | number => exact scanNumber_not_isVoid h
  | operator => exact scanOperator_not_isVoid h
  | string => exact scanString_not_isVoid h
  | lineBreak => exact scanLineBreak_not_isVoid h

end Rule

/-- A token that is found at the front of a text has at least one character. -/
theorem Surface.length_lexeme_pos {surface : Surface} {text lexeme : Text} {token : Token}
    (h : surface.scan text = some (.token token lexeme)) : 0 < lexeme.length := by
  obtain ⟨rule, -, hrule⟩ := List.exists_of_findSome?_eq_some h
  have := Rule.scan_not_isVoid hrule
  simpa [Scan.isVoid, List.length_pos_iff] using this

end ScriptLexer
