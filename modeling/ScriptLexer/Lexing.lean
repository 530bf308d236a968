import ScriptLexer.Dialect.Basic
import ScriptLexer.Segment
import ScriptLexer.Text.Rows

set_option autoImplicit false

/-! # Lexing

Lexing a text gives the tokens of its segments with the positions they start at, and, if the
cut stops short of the end, a diagnostic for the place where it does. A position moves over the
segments one by one: a line break leads to the next row, a string literal moves it over all its
characters, since an escaped line feed may stand among them, and any other segment moves it to
the right. -/

namespace ScriptLexer

namespace Segment

/-- Where a segment ends that starts at a position. -/
def advance (segment : Segment) (p : Position) : Position :=
  match segment.token? with
  | some .lineBreak => p.down 1
  | some (.string _) => p.past segment.lexeme
  | _ => p.right segment.lexeme.length

/-- The tokens of segments of which the first starts at a position. -/
def locate (p : Position) : List Segment → List LocatedToken
  | [] => []
  | segment :: segments =>
    let rest := locate (segment.advance p) segments
    match segment.token? with
    | some token => ⟨token, p⟩ :: rest
    | none => rest

/-- Where segments end of which the first starts at a position. -/
def advanceAll (p : Position) (segments : List Segment) : Position :=
  segments.foldl (fun q segment => segment.advance q) p

/-- The text that segments are cut from. -/
def characters (segments : List Segment) : Text := segments.flatMap (·.lexeme)

end Segment

/-- What lexing a text gives. -/
structure Lexing where
  /-- The tokens, up to the failure if there is one. -/
  tokens : List LocatedToken
  /-- The first failure. -/
  failure? : Option Diagnostic
deriving DecidableEq, Repr

namespace Lexing

/-- The whole text has become tokens. -/
def ok (lexing : Lexing) : Bool := lexing.failure?.isNone

/-- The tokens of the whole text, or the failure. -/
def result (lexing : Lexing) : Except Diagnostic (List LocatedToken) :=
  match lexing.failure? with
  | some failure => .error failure
  | none => .ok lexing.tokens

end Lexing

namespace Cut

/-- The diagnostic for the place in a text where its cut stops. -/
def diagnostic? (cut : Cut) (text : Text) : Option Diagnostic :=
  cut.stop?.map fun stop =>
    let index := (Segment.characters cut.segments).length + stop.passed.length
    ⟨stop.fault, (Segment.advanceAll Position.start cut.segments).past stop.passed,
      some (text.rowAt index)⟩

end Cut

namespace Dialect

/-- What the rules need to know of a dialect. -/
def surface (dialect : Dialect) : Surface :=
  let items := dialect.letterItems
  ⟨fun c => items.any (·.covers c), dialect.operators⟩

/-- The rules see the letters of the dialect and whether it has operators. -/
theorem surface_eq (dialect : Dialect) :
    dialect.surface = ⟨dialect.isLetter, dialect.operators⟩ := rfl

/-- Lexes a text of the dialect. -/
def lex (dialect : Dialect) (text : Text) : Lexing :=
  let cut := dialect.surface.cut text
  ⟨Segment.locate Position.start cut.segments, cut.diagnostic? text⟩

/-- The tokens of a text of the dialect, or why there are none. -/
def tokenize (dialect : Dialect) (text : Text) : Except Diagnostic (List LocatedToken) :=
  (dialect.lex text).result

end Dialect

end ScriptLexer
