import ScriptLexer.Proofs.Reserved
import ScriptLexer.Proofs.Segmentation
import Mathlib.Data.List.Chain

set_option autoImplicit false

/-! # Lexing written lexemes

A text can be written from lexemes with runs of spaces before, between and behind them
(`Piece.render`). Lexing such a text gives the tokens of the lexemes back (`lex_render`), if no
letter is a reserved character and a space stands between two neighbours that would otherwise be
one lexeme: two identifiers, or two numbers. No other two neighbours need a space, because a
lexeme never goes on with a character that one of another rule starts with
(`Rule.eq_of_continues`). -/

namespace ScriptLexer

variable {surface : Surface} {rule : Rule} {token : Token} {lexeme rest : Text} {c : Char}

/-! ## Written lexemes -/

/-- A lexeme with its token, and the number of spaces that are written behind it. -/
structure Piece (surface : Surface) where
  /-- The rule of the lexeme. -/
  rule : Rule
  /-- The token that the lexeme stands for. -/
  token : Token
  /-- The characters of the lexeme. -/
  lexeme : Text
  /-- The number of spaces behind it. -/
  gap : Nat
  /-- The characters are written for the token by the rule. -/
  written : Lexeme surface rule token lexeme

/-- A run of spaces as segments. -/
def Segment.spaces (count : Nat) : List Segment :=
  if count = 0 then [] else [⟨List.replicate count Text.space, none⟩]

namespace Piece

/-- The characters of a piece. -/
def text (piece : Piece surface) : Text := piece.lexeme ++ List.replicate piece.gap Text.space

/-- The segments of a piece. -/
def segments (piece : Piece surface) : List Segment :=
  ⟨piece.lexeme, some piece.token⟩ :: Segment.spaces piece.gap

/-- The pieces one after the other, behind a number of spaces. -/
def render (lead : Nat) (pieces : List (Piece surface)) : Text :=
  List.replicate lead Text.space ++ pieces.flatMap text

/-- The first piece ends with a space if both are identifiers or both are numbers. -/
def Apart (first second : Piece surface) : Prop :=
  first.rule = second.rule → first.rule = .identifier ∨ first.rule = .number → 0 < first.gap

/-- The tokens of the segments of pieces are those of the pieces. -/
theorem filterMap_segments (lead : Nat) (pieces : List (Piece surface)) :
    (Segment.spaces lead ++ pieces.flatMap segments).filterMap (·.token?) =
      pieces.map (·.token) := by
  have hspaces : ∀ count, (Segment.spaces count).filterMap (·.token?) = [] := by
    intro count
    cases count <;> rfl
  rw [List.filterMap_append, hspaces, List.nil_append]
  induction pieces with
  | nil => rfl
  | cons piece pieces ih =>
    rw [List.flatMap_cons, List.filterMap_append, ih]
    show piece.token :: (Segment.spaces piece.gap).filterMap (·.token?) ++ _ = _
    rw [hspaces]
    rfl

theorem head?_flatMap_text {pieces : List (Piece surface)}
    (h : (pieces.flatMap text).head? = some c) :
    ∃ next more, pieces = next :: more ∧ next.rule.starts surface c := by
  cases pieces with
  | nil => simp at h
  | cons next more =>
    obtain ⟨first, rest, hlexeme, hfirst⟩ := next.written.starts
    rw [List.flatMap_cons, text, hlexeme] at h
    obtain rfl : first = c := by simpa using h
    exact ⟨next, more, rfl, hfirst⟩

end Piece

namespace Segmentation

/-- Spaces may be written in front of a text that starts with none. -/
theorem replicate_append {cut : Cut} (count : Nat) (hrest : rest.head? ≠ some Text.space)
    (h : Segmentation surface rest cut) :
    Segmentation surface (List.replicate count Text.space ++ rest)
      ⟨Segment.spaces count ++ cut.segments, cut.stop?⟩ := by
  cases count with
  | zero => exact h
  | succ count => exact Segmentation.spaces (Nat.succ_pos count) hrest h

end Segmentation

section

variable (hreserved : ∀ c ∈ Surface.reserved, surface.isLetter c = false)
include hreserved

/-- No other rule comes before the one of a lexeme. -/
theorem Rule.Longest.munch {text : Text} (h : rule.Longest surface text token lexeme) :
    Munch surface rule text token lexeme := by
  refine ⟨h, fun earlier hrank happlies => ?_⟩
  obtain ⟨c, rest, rfl, hc⟩ := happlies.starts
  obtain ⟨c', rest', heq, hc'⟩ := h.applies.starts
  obtain ⟨rfl, rfl⟩ := List.cons.inj heq
  rw [Rule.starts_unique hreserved hc hc'] at hrank
  exact lt_irrefl _ hrank

namespace Piece

theorem head?_flatMap_text_ne_space (pieces : List (Piece surface)) :
    (pieces.flatMap text).head? ≠ some Text.space := by
  intro h
  obtain ⟨next, more, rfl, hspace⟩ := head?_flatMap_text h
  exact Rule.not_starts hreserved (by decide) hspace

/-- Behind the lexeme of a piece stands nothing that it could go on with. -/
theorem not_continues_behind {piece : Piece surface} {pieces : List (Piece surface)}
    (hapart : ∀ next ∈ pieces.head?, piece.Apart next)
    (h : (List.replicate piece.gap Text.space ++ pieces.flatMap text).head? = some c) :
    ¬piece.rule.continues surface c := by
  intro hcontinues
  cases hgap : piece.gap with
  | zero =>
    -- the character is the first one of the next piece
    rw [hgap] at h
    obtain ⟨next, more, rfl, hstarts⟩ := head?_flatMap_text h
    obtain ⟨hrule, hkind⟩ := Rule.eq_of_continues hreserved hcontinues hstarts
    have := hapart next rfl hrule hkind
    omega
  | succ gap =>
    rw [hgap] at h
    obtain rfl : Text.space = c := Option.some.inj h
    exact Rule.not_continues_space hreserved hcontinues

/-- The segments of pieces that are apart are the segmentation of their text. -/
theorem segmentation_flatMap {pieces : List (Piece surface)} (hapart : pieces.IsChain Apart) :
    Segmentation surface (pieces.flatMap text) ⟨pieces.flatMap segments, none⟩ := by
  -- what follows the first piece is a segmentation already, and it starts with no space
  induction pieces with
  | nil => exact Segmentation.stop Ending.done
  | cons piece pieces ih =>
    obtain ⟨hfirst, hmore⟩ := List.isChain_cons.mp hapart
    have hrest := (ih hmore).replicate_append piece.gap
      (head?_flatMap_text_ne_space hreserved pieces)
    have hlongest := piece.written.longest fun c =>
      not_continues_behind hreserved (c := c) hfirst
    have hspace : (piece.lexeme ++ (List.replicate piece.gap Text.space ++
        pieces.flatMap text)).head? ≠ some Text.space := by
      intro hhead
      obtain ⟨c, more, heq, hc⟩ := hlongest.applies.starts
      rw [heq] at hhead
      obtain rfl : c = Text.space := Option.some.inj hhead
      exact Rule.not_starts hreserved (by decide) hc
    have hwhole := Segmentation.lexeme hspace (hlongest.munch hreserved) hrest
    rw [List.flatMap_cons, List.flatMap_cons, text, List.append_assoc]
    exact hwhole

end Piece

end

/-- **Lexing reads back what is written.** If no letter is reserved, the text of lexemes with
spaces before, between and behind them, where at least one space stands between two identifiers
and between two numbers that follow each other, becomes the tokens of the lexemes in order. -/
theorem Dialect.lex_render (dialect : Dialect)
    (hreserved : ∀ c ∈ Surface.reserved, dialect.isLetter c = false) (lead : Nat)
    (pieces : List (Piece ⟨dialect.isLetter, dialect.operators⟩))
    (hapart : pieces.IsChain Piece.Apart) :
    (dialect.lex (Piece.render lead pieces)).ok = true ∧
      (dialect.lex (Piece.render lead pieces)).tokens.map (·.token) = pieces.map (·.token) := by
  have hletters : ∀ c ∈ Surface.reserved, Surface.isLetter ⟨dialect.isLetter, dialect.operators⟩ c =
      false := hreserved
  have hsegmentation := (Piece.segmentation_flatMap hletters hapart).replicate_append lead
    (Piece.head?_flatMap_text_ne_space hletters pieces)
  have hcut : dialect.surface.cut (Piece.render lead pieces) =
      ⟨Segment.spaces lead ++ pieces.flatMap Piece.segments, none⟩ := hsegmentation.cut_eq
  constructor
  · show ((dialect.surface.cut (Piece.render lead pieces)).stop?.map _).isNone = true
    rw [hcut]
    rfl
  · show (Segment.locate Position.start _).map (·.token) = _
    rw [hcut, Segment.map_token_locate, Piece.filterMap_segments]

/-- A text of the full dialect in which neighbours touch wherever they may. -/
theorem Dialect.lex_render_touching :
    (∀ c ∈ Surface.reserved, Dialect.full.isLetter c = false) ∧
      (Dialect.full.lex " x  y1.5 2+=+'a''b'\r\n".toList).ok = true ∧
      (Dialect.full.lex " x  y1.5 2+=+'a''b'\r\n".toList).tokens.map (·.token) =
        [.identifier ['x'], .identifier ['y'], .number ⟨false, .nearest 3 2⟩,
          .number ⟨false, .nearest 2 1⟩, .operator .addAssign, .operator .add,
          .string "'a'".toList, .string "'b'".toList, .lineBreak] := by
  have hletters : ∀ c ∈ Surface.reserved, Dialect.full.isLetter c = false :=
    Dialect.isLetter_of_mem_names ("full".toList, Dialect.full) (by simp [Dialect.names])
  refine ⟨hletters, Dialect.lex_render Dialect.full hletters 1
    [⟨_, _, ['x'], 2, .identifier (by simp) (List.forall_mem_singleton.mpr (by decide +kernel))⟩,
      ⟨_, _, ['y'], 0, .identifier (by simp) (List.forall_mem_singleton.mpr (by decide +kernel))⟩,
      ⟨_, _, ['1', '.', '5'], 1,
        .number (@Numeral.IsNumeral.decimal ['1'] ['5'] (by simp [Numeral.IsDigits])
          (by simp [Numeral.IsDigits])) (by decide +kernel)⟩,
      ⟨_, _, ['2'], 0,
        .number (.whole (by simp [Numeral.IsDigits])) (by decide +kernel)⟩,
      ⟨_, _, _, 0, .operator rfl .addAssign⟩, ⟨_, _, _, 0, .operator rfl .add⟩,
      ⟨_, _, _, 0, @Lexeme.string _ ['a'] (.plain (by decide) .nil)⟩,
      ⟨_, _, _, 0, @Lexeme.string _ ['b'] (.plain (by decide) .nil)⟩,
      ⟨_, _, _, 0, .carriageReturn⟩] ?_⟩
  simp [Piece.Apart]

end ScriptLexer
