import ScriptLexer.Proofs.Number.ReadBack
import ScriptLexer.Proofs.Segmentation
import ScriptLexer.Proofs.Shown
import ScriptLexer.Proofs.Text.Quoted
import Mathlib.Data.List.Basic

set_option autoImplicit false

/-! # Tokens can be told apart by how they are shown

A token that is lexed is written by a rule (`Dialect.exists_lexeme`), so the number in it, if it
holds one, has no sign and 53 bits (`Lexeme.number_eq`). Among such tokens, equal payloads are shown
equally and no others (`Lexeme.eq_of_text`). A position in front of a token can be told as well
(`LocatedToken.parts_of_line`), and neither of them is shown by a character at which a text could
be taken for more than one line (`Text.AllPrintable.not_mem_lineBoundaries`). -/

namespace ScriptLexer

/-! ## Characters that end lines -/

namespace Text

/-- The characters at which texts are taken apart into lines: the line feed, the carriage return,
the vertical tab, the form feed, the three separators of files, groups and records, the next line,
and the separators of lines and of paragraphs. -/
def lineBoundaries : List Char :=
  [lineFeed, carriageReturn, '\x0b', '\x0c', '\x1c', '\x1d', '\x1e', '\u0085', '\u2028', '\u2029']

/-- None of them can be shown as itself. -/
theorem AllPrintable.not_mem_lineBoundaries {text : Text} (h : text.AllPrintable) {c : Char}
    (hc : c ∈ text) : c ∉ lineBoundaries := by
  have hnone : lineBoundaries.all (!isPrintable ·) = true := by decide +kernel
  intro hboundary
  have hhidden := List.all_eq_true.mp hnone c hboundary
  rw [h c hc] at hhidden
  exact absurd hhidden (by decide)

end Text

/-! ## Tokens -/

namespace Token

/-- The letter that the kind of a token starts with. -/
def initial : Token → Char
  | .identifier _ => 'I'
  | .number _ => 'N'
  | .operator _ => 'O'
  | .string _ => 'S'
  | .lineBreak => 'L'

theorem head?_kindName (token : Token) : token.kindName.head? = some token.initial := by
  cases token <;> rfl

/-- No two kinds start with the same letter, so the letter can be told from how a token is shown. -/
theorem initial_of_text {a b : Token} (h : a.text = b.text) : a.initial = b.initial := by
  have hhead := congrArg List.head? (parts_of_text h).1
  rw [head?_kindName, head?_kindName] at hhead
  exact Option.some.inj hhead

end Token

namespace Operator

theorem name_injective {a b : Operator} (h : a.name = b.name) : a = b := by
  revert h
  cases a <;> cases b <;> decide

end Operator

namespace Number

/-- Numbers of one sign are the same value only if they are equal. -/
theorem same_iff {a b : Number} (h : a.negative = b.negative) : a.same b = true ↔ a = b := by
  obtain ⟨negative, magnitude⟩ := a
  obtain ⟨negative', magnitude'⟩ := b
  obtain rfl : negative = negative' := h
  unfold same
  rw [Bool.or_eq_true, Bool.and_eq_true, beq_iff_eq, beq_iff_eq, beq_iff_eq]
  constructor
  · rintro (heq | ⟨hzero, hzero'⟩)
    · exact heq
    · simp only at hzero hzero'
      rw [hzero, hzero']
  · exact Or.inl

end Number

namespace Lexeme

variable {surface surface' : Surface} {rule rule' : Rule} {a b : Token} {lexeme lexeme' : Text}
  {value : Number}

/-- A rule writes numbers without a sign, each nearest to a decimal. -/
theorem number_eq (h : Lexeme surface rule (.number value) lexeme) :
    value.negative = false ∧ value.magnitude.IsBinary64 := by
  cases h with
  | number hnumeral hvalue =>
    obtain ⟨numeral, hwellFormed, rfl⟩ := hnumeral.exists_wellFormed
    obtain rfl : numeral.value = value :=
      Option.some.inj (hwellFormed.ofText?_lexeme.symm.trans hvalue)
    exact ⟨rfl, Decimal.isBinary64_nearest _⟩

/-- **Different tokens are shown differently**, whatever rules write them. -/
theorem eq_of_text (ha : Lexeme surface rule a lexeme) (hb : Lexeme surface' rule' b lexeme')
    (h : a.text = b.text) : a = b := by
  have hkind := Token.initial_of_text h
  have hpayload := (Token.parts_of_text h).2
  cases a with
  | identifier name =>
    cases b <;> simp [Token.initial] at hkind
    rw [Text.quoted_injective (Option.some.inj hpayload)]
  | number value =>
    cases b <;> simp [Token.initial] at hkind
    rw [Number.text_injective ha.number_eq.2 hb.number_eq.2 (Option.some.inj hpayload)]
  | operator op =>
    cases b <;> simp [Token.initial] at hkind
    rw [Operator.name_injective (Option.some.inj hpayload)]
  | string value =>
    cases b <;> simp [Token.initial] at hkind
    rw [Text.quoted_injective (Option.some.inj hpayload)]
  | lineBreak =>
    cases b <;> simp [Token.initial] at hkind
    rfl

/-- For tokens that rules write, to be the same is to be equal. -/
theorem same_iff (ha : Lexeme surface rule a lexeme) (hb : Lexeme surface' rule' b lexeme') :
    a.same b = true ↔ a = b := by
  unfold Token.same
  split
  next value value' =>
    rw [Number.same_iff (ha.number_eq.1.trans hb.number_eq.1.symm), Token.number.injEq]
  · exact beq_iff_eq

end Lexeme

/-- A token that is lexed is written by a rule. -/
theorem Dialect.exists_lexeme {dialect : Dialect} {text : Text} {located : LocatedToken}
    (h : located ∈ (dialect.lex text).tokens) :
    ∃ rule lexeme, Lexeme dialect.surface rule located.token lexeme := by
  have hmem : located.token ∈ (dialect.surface.cut text).segments.filterMap (·.token?) := by
    rw [← Segment.map_token_locate Position.start]
    exact List.mem_map_of_mem h
  obtain ⟨segment, hsegment, htoken⟩ := List.mem_filterMap.mp hmem
  have hshaped := (segmentation_cut dialect.surface text).shaped segment hsegment
  cases hshaped with
  | spaces _ => simp at htoken
  | lexeme hwritten =>
    obtain rfl := Option.some.inj htoken
    exact ⟨_, _, hwritten⟩

/-! ## Tokens behind positions -/

/-- Different positions are shown differently. -/
theorem Position.text_injective {p q : Position} (h : p.text = q.text) : p = q := by
  have hcolon : ∀ n : Int, ':' ∉ Text.ofInt n := Text.not_mem_ofInt (by decide) (by decide)
  obtain ⟨row, col⟩ := p
  obtain ⟨row', col'⟩ := q
  unfold text at h
  obtain ⟨hrow, -, hcol⟩ := (List.append_cons_inj_of_notMem (hcolon row) (hcolon col)).mp h
  rw [Text.ofInt_injective hrow, Text.ofInt_injective hcol]

namespace LocatedToken

variable {a b : LocatedToken}

/-- The position and the token can be told from a line that shows both. -/
theorem parts_of_line (h : a.line true = b.line true) :
    a.position = b.position ∧ a.token.text = b.token.text := by
  -- the line has no other tab than the one between the two
  have hfront := a.position.allPrintable_text.tab_not_mem
  have hbehind := a.token.allPrintable_text.tab_not_mem
  unfold line at h
  rw [if_pos rfl, if_pos rfl] at h
  obtain ⟨hposition, -, htoken⟩ := (List.append_cons_inj_of_notMem hfront hbehind).mp h
  exact ⟨Position.text_injective hposition, htoken⟩

end LocatedToken

/-! ## Lists of tokens -/

section

variable {α β γ : Type} {f : α → β} {g : α → γ}

/-- What is told by each pair of elements is told by the lists. -/
theorem map_eq_map_of_mem {as bs : List α} (h : ∀ a ∈ as, ∀ b ∈ bs, f a = f b → g a = g b)
    (hmap : as.map f = bs.map f) : as.map g = bs.map g := by
  induction as generalizing bs with
  | nil =>
    rw [List.map_nil] at hmap
    rw [List.map_eq_nil_iff.mp hmap.symm]
  | cons a as ih =>
    cases bs with
    | nil => simp at hmap
    | cons b bs =>
      obtain ⟨hhead, htail⟩ := List.cons.inj hmap
      have hrest := ih (fun a ha b hb =>
        h a (List.mem_cons_of_mem _ ha) b (List.mem_cons_of_mem _ hb)) htail
      rw [List.map_cons, List.map_cons, hrest, h a List.mem_cons_self b List.mem_cons_self hhead]

end

namespace Dialect

variable (dialect dialect' : Dialect) (text text' : Text)

/-- Two texts give the same tokens, positions aside, exactly if their tokens are shown equally. -/
theorem map_token_eq_iff :
    (dialect.lex text).tokens.map (·.line false) = (dialect'.lex text').tokens.map (·.line false) ↔
      (dialect.lex text).tokens.map (·.token) = (dialect'.lex text').tokens.map (·.token) := by
  constructor
  · apply map_eq_map_of_mem
    intro a ha b hb hline
    obtain ⟨_, _, hwritten⟩ := exists_lexeme ha
    obtain ⟨_, _, hwritten'⟩ := exists_lexeme hb
    exact hwritten.eq_of_text hwritten' hline
  · intro h
    have htexts := congrArg (List.map Token.text) h
    rw [List.map_map, List.map_map] at htexts
    exact htexts

/-- Two texts give the same tokens at the same positions exactly if they are shown equally. -/
theorem tokens_eq_iff :
    (dialect.lex text).tokens.map (·.line true) = (dialect'.lex text').tokens.map (·.line true) ↔
      (dialect.lex text).tokens = (dialect'.lex text').tokens := by
  constructor
  · intro h
    rw [← List.map_id (dialect.lex text).tokens, ← List.map_id (dialect'.lex text').tokens]
    refine map_eq_map_of_mem (fun a ha b hb hline => ?_) h
    obtain ⟨hposition, htext⟩ := LocatedToken.parts_of_line hline
    obtain ⟨_, _, hwritten⟩ := exists_lexeme ha
    obtain ⟨_, _, hwritten'⟩ := exists_lexeme hb
    have htoken := hwritten.eq_of_text hwritten' htext
    cases a
    cases b
    exact congrArg₂ LocatedToken.mk htoken hposition
  · intro h
    rw [h]

end Dialect

end ScriptLexer
