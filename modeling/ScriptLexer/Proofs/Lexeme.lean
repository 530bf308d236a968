import ScriptLexer.Proofs.Literal.Body
import ScriptLexer.Proofs.Number.Numeral
import ScriptLexer.Scan

set_option autoImplicit false

/-! # Lexemes

The lexemes of the language, rule by rule and without regard to the text around them
(`Lexeme`). Three facts about them carry the results on lexing. The first character of a
lexeme tells the classes it can start with (`Lexeme.starts`). A lexeme that goes on behind
another one of its rule does so with a character of a small class (`Lexeme.continues`); string
literals and line breaks never go on. And all lexemes but string literals can be cut at nearly
every place (`Lexeme.exists_take`), so that whether there is a longer one is decided by the next
two characters. -/

namespace ScriptLexer

/-- The characters are written for the token by the rule. -/
inductive Lexeme (surface : Surface) : Rule → Token → Text → Prop where
  | identifier {name : Text} (hne : name ≠ [])
      (hletters : ∀ c ∈ name, surface.isLetter c = true) :
      Lexeme surface .identifier (.identifier name) name
  | number {lexeme : Text} {value : Number} (hnumeral : Numeral.IsNumeral lexeme)
      (hvalue : Number.ofText? lexeme = some value) :
      Lexeme surface .number (.number value) lexeme
  | operator (hoperators : surface.operators = true) (op : Operator) :
      Lexeme surface .operator (.operator op) op.symbol
  | string {body : Text} (hbody : Literal.Body body) :
      Lexeme surface .string
        (.string (Text.apostrophe :: (Literal.unescape body ++ [Text.apostrophe])))
        (Text.apostrophe :: (body ++ [Text.apostrophe]))
  | lineFeed : Lexeme surface .lineBreak .lineBreak [Text.lineFeed]
  | carriageReturn :
      Lexeme surface .lineBreak .lineBreak [Text.carriageReturn, Text.lineFeed]

variable {surface : Surface} {rule : Rule} {token : Token} {lexeme : Text}

namespace Operator

theorem symbol_injective {a b : Operator} (h : a.symbol = b.symbol) : a = b := by
  revert h
  cases a <;> cases b <;> decide

theorem length_symbol (op : Operator) : 1 ≤ op.symbol.length ∧ op.symbol.length ≤ 2 := by
  cases op <;> decide

theorem ofSymbol?_eq_some_iff {s : Text} {op : Operator} :
    ofSymbol? s = some op ↔ op.symbol = s := by
  constructor
  · intro h
    simpa using List.find?_some h
  · rintro rfl
    cases op <;> rfl

/-- Behind one operator, a longer one goes on with the equals sign. -/
theorem symbol_continues {a b : Operator} {c : Char} {rest : Text}
    (h : b.symbol = a.symbol ++ c :: rest) : c = '=' := by
  revert h
  cases a <;> cases b <;> simp [symbol] <;> rintro rfl <;> simp

end Operator

/-- A rule writes a lexeme for one token only. -/
theorem Lexeme.token_unique {token' : Token} (h : Lexeme surface rule token lexeme)
    (h' : Lexeme surface rule token' lexeme) : token = token' := by
  cases h with
  | identifier _ _ => cases h'; rfl
  | number _ hvalue =>
    cases h' with
    | number _ hvalue' => rw [Option.some.inj (hvalue.symm.trans hvalue')]
  | operator _ op =>
    generalize hsymbol : op.symbol = symbol at h'
    cases h' with
    | operator _ op' => rw [Operator.symbol_injective hsymbol]
  | @string body hbody =>
    generalize htext : Text.apostrophe :: (body ++ [Text.apostrophe]) = text at h'
    cases h' with
    | @string body' hbody' =>
      have heq := List.append_cancel_right (List.cons.inj htext).2
      rw [heq]
  | lineFeed => cases h'; rfl
  | carriageReturn => cases h'; rfl

/-! ## First characters -/

/-- The characters that a lexeme of the rule can start with. -/
def Rule.starts (surface : Surface) : Rule → Char → Prop
  | .identifier, c => surface.isLetter c = true
  | .number, c => c.isDigit = true
  | .operator, c => c ∈ ['+', '-', '*', '/']
  | .string, c => c = Text.apostrophe
  | .lineBreak, c => c = Text.lineFeed ∨ c = Text.carriageReturn

theorem Lexeme.starts (h : Lexeme surface rule token lexeme) :
    ∃ c rest, lexeme = c :: rest ∧ rule.starts surface c := by
  cases h with
  | identifier hne hletters =>
    obtain ⟨c, rest, rfl⟩ := List.exists_cons_of_ne_nil hne
    exact ⟨c, rest, rfl, hletters c (by simp)⟩
  | number hnumeral _ => exact hnumeral.exists_cons
  | operator _ op => cases op <;> exact ⟨_, _, rfl, by simp [Rule.starts]⟩
  | string _ => exact ⟨_, _, rfl, rfl⟩
  | lineFeed => exact ⟨_, _, rfl, Or.inl rfl⟩
  | carriageReturn => exact ⟨_, _, rfl, Or.inr rfl⟩

theorem Lexeme.ne_nil (h : Lexeme surface rule token lexeme) : lexeme ≠ [] := by
  obtain ⟨c, rest, rfl, -⟩ := h.starts
  simp

/-! ## Shorter lexemes in a lexeme -/

/-- Of two neighbouring places, a lexeme other than a string literal can be cut at one so that a
lexeme of the same rule is left. -/
theorem Lexeme.exists_take (h : Lexeme surface rule token lexeme) (hrule : rule ≠ .string)
    {n : Nat} (hn : 0 < n) (hle : n ≤ lexeme.length) :
    ∃ m token', n ≤ m ∧ m ≤ n + 1 ∧ m ≤ lexeme.length ∧
      Lexeme surface rule token' (lexeme.take m) := by
  -- a lexeme of at most two characters is left as it is
  have hwhole : lexeme.length ≤ 2 → ∃ m token', n ≤ m ∧ m ≤ n + 1 ∧ m ≤ lexeme.length ∧
      Lexeme surface rule token' (lexeme.take m) := by
    intro hshort
    refine ⟨lexeme.length, token, hle, by omega, le_rfl, ?_⟩
    rw [List.take_length]
    exact h
  cases h with
  | identifier hne hletters =>
    refine ⟨n, _, le_rfl, by omega, hle, Lexeme.identifier ?_ fun c hc => ?_⟩
    · rw [Ne, List.take_eq_nil_iff]
      rintro (h0 | hnil)
      · omega
      · exact hne hnil
    · exact hletters c (List.mem_of_mem_take hc)
  | number hnumeral _ =>
    obtain ⟨m, hnm, hm, hlength, htake⟩ := hnumeral.exists_take hn hle
    obtain ⟨value, hvalue⟩ := htake.exists_ofText?
    exact ⟨m, _, hnm, hm, hlength, Lexeme.number htake hvalue⟩
  | operator _ op => exact hwhole op.length_symbol.2
  | string _ => exact absurd rfl hrule
  | lineFeed => exact hwhole (by decide)
  | carriageReturn => exact hwhole (by decide)

/-! ## Lexemes that go on -/

/-- The characters by which a lexeme of the rule can go on behind a shorter one. -/
def Rule.continues (surface : Surface) : Rule → Char → Prop
  | .identifier, c => surface.isLetter c = true
  | .number, c => c.isDigit = true ∨ c = '.'
  | .operator, c => c = '='
  | .string, _ => False
  | .lineBreak, _ => False

/-- No literal is the beginning of another one. -/
theorem Literal.Body.eq_of_prefix {a b : Text} (ha : Literal.Body a) (hb : Literal.Body b)
    (h : a ++ [Text.apostrophe] <+: b ++ [Text.apostrophe]) : a = b := by
  obtain ⟨rest, hrest⟩ := h
  rw [List.append_assoc, List.singleton_append] at hrest
  exact (ha.append_inj hb rfl rfl hrest).1

/-- Behind a lexeme, a longer one of the same rule goes on with a character of the rule. -/
theorem Lexeme.continues {token' : Token} {c : Char} {rest : Text}
    (h : Lexeme surface rule token lexeme)
    (h' : Lexeme surface rule token' (lexeme ++ c :: rest)) : rule.continues surface c := by
  generalize htext : lexeme ++ c :: rest = text at h'
  cases h' with
  | identifier _ hletters => exact hletters c (by simp [← htext])
  | number hnumeral _ =>
    have hc := hnumeral.mem (c := c) (by simp [← htext])
    exact hc
  | operator _ op' =>
    cases h with
    | operator _ op => exact Operator.symbol_continues htext.symm
  | @string body' hbody' =>
    cases h with
    | @string body hbody =>
      have hfront : body ++ [Text.apostrophe] <+: body' ++ [Text.apostrophe] :=
        ⟨c :: rest, by simpa using htext⟩
      -- the two literals are the same, so nothing is left to go on with
      obtain rfl := hbody.eq_of_prefix hbody' hfront
      have := congrArg List.length htext
      simp at this
  | lineFeed => cases h <;> simp at htext
  | carriageReturn =>
    cases h with
    | lineFeed => exact absurd (List.cons.inj htext).1 (by decide)
    | carriageReturn => simp at htext

end ScriptLexer
