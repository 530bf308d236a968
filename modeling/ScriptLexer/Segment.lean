import ScriptLexer.Diagnostic
import ScriptLexer.Scan

set_option autoImplicit false

/-! # Segments

A text is cut from its start into segments: runs of spaces, which stand for nothing, and
lexemes, each of which stands for one token. The cut goes on to the end of the text, or it
stops where no rule applies or a string literal is at fault. No position is involved yet, so a
cut depends on the characters alone. -/

namespace ScriptLexer

/-- A piece of a text. -/
structure Segment where
  /-- The characters of the piece. -/
  lexeme : Text
  /-- The token that the piece stands for; a run of spaces stands for none. -/
  token? : Option Token
deriving DecidableEq, Repr

/-- Why and where a cut stops before the end of the text. -/
structure Stop where
  /-- What is wrong. -/
  fault : Fault
  /-- The characters after the last segment that come before the place to point at. -/
  passed : Text
deriving DecidableEq, Repr

/-- The segments of a text, and where the cut stops short of its end. -/
structure Cut where
  /-- The segments in order. -/
  segments : List Segment
  /-- What ends the cut, if not the end of the text. -/
  stop? : Option Stop
deriving DecidableEq, Repr

namespace Cut

/-- The cut with one more segment in front. -/
def after (segment : Segment) (cut : Cut) : Cut :=
  { cut with segments := segment :: cut.segments }

end Cut

namespace Surface

/-- Cuts a text into its segments. -/
def cut (surface : Surface) (text : Text) : Cut :=
  match text with
  | [] => ⟨[], none⟩
  | c :: rest =>
    if c = Text.space then
      let spaces := c :: rest.takeWhile (· == Text.space)
      (surface.cut (rest.dropWhile (· == Text.space))).after ⟨spaces, none⟩
    else
      match _h : surface.scan (c :: rest) with
      | none => ⟨[], some ⟨.unknownSymbol [c], []⟩⟩
      | some (.faulty fault passed) => ⟨[], some ⟨.literal fault, passed⟩⟩
      | some (.token token lexeme) =>
        (surface.cut ((c :: rest).drop lexeme.length)).after ⟨lexeme, some token⟩
termination_by text.length
decreasing_by
  · have := (List.dropWhile_sublist (· == Text.space) (l := rest)).length_le
    simp only [List.length_cons]
    omega
  · have := Surface.length_lexeme_pos _h
    simp only [List.length_drop, List.length_cons]
    omega

end Surface

end ScriptLexer
