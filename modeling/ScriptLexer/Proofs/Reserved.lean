import ScriptLexer.Dialect.Environment
import ScriptLexer.Proofs.Lexeme
import Mathlib.Tactic.IntervalCases

set_option autoImplicit false

/-! # Reserved characters

The rules other than the one for identifiers look for digits, signs, apostrophes and the
characters of line breaks; with the space, these are the reserved characters. As long as none of
them is a letter, the first character of a lexeme tells its rule (`Rule.starts_unique`), and a
lexeme never goes on with a character that one of another rule starts with
(`Rule.eq_of_continues`). The dialects that have names are of this kind. -/

namespace ScriptLexer

/-- The characters that the rules other than the one for identifiers look for, and the space. -/
def Surface.reserved : List Char :=
  "0123456789 .+-*/=".toList ++ [Text.apostrophe, Text.carriageReturn, Text.lineFeed]

variable {surface : Surface} {rule : Rule} {c : Char}

/-! ## First characters of different rules -/

theorem Surface.mem_reserved_of_isDigit (h : c.isDigit = true) : c ∈ reserved := by
  simp only [Char.isDigit, Bool.and_eq_true, decide_eq_true_eq] at h
  have hlow : 48 ≤ c.toNat := UInt32.le_iff_toNat_le.mp h.1
  have hhigh : c.toNat ≤ 57 := UInt32.le_iff_toNat_le.mp h.2
  rw [← Char.ofNat_toNat c]
  interval_cases c.toNat <;> decide

namespace Rule

/-- Only identifiers start with a character that is not reserved. -/
theorem mem_reserved_of_starts (h : rule.starts surface c) (hrule : rule ≠ .identifier) :
    c ∈ Surface.reserved := by
  cases rule with
  | identifier => exact absurd rfl hrule
  | number => exact Surface.mem_reserved_of_isDigit h
  | operator =>
    simp only [starts, List.mem_cons, List.not_mem_nil, or_false] at h
    rcases h with rfl | rfl | rfl | rfl <;> decide
  | string =>
    obtain rfl : c = Text.apostrophe := h
    decide
  | lineBreak => rcases h with rfl | rfl <;> decide

/-- The rule that a character starts a lexeme of, letters aside. -/
def ofReserved? (c : Char) : Option Rule :=
  if c.isDigit then some .number
  else if c ∈ ['+', '-', '*', '/'] then some .operator
  else if c = Text.apostrophe then some .string
  else if c = Text.lineFeed ∨ c = Text.carriageReturn then some .lineBreak
  else none

/-- The rule that a character starts a lexeme of, if no letter is reserved. -/
def ofFirst? (surface : Surface) (c : Char) : Option Rule :=
  if surface.isLetter c then some .identifier else ofReserved? c

theorem ofReserved?_of_starts (h : rule.starts surface c) (hrule : rule ≠ .identifier) :
    ofReserved? c = some rule := by
  cases rule with
  | identifier => exact absurd rfl hrule
  | number => exact if_pos h
  | operator =>
    simp only [starts, List.mem_cons, List.not_mem_nil, or_false] at h
    rcases h with rfl | rfl | rfl | rfl <;> decide
  | string =>
    obtain rfl : c = Text.apostrophe := h
    decide
  | lineBreak => rcases h with rfl | rfl <;> decide

variable (hreserved : ∀ c ∈ Surface.reserved, surface.isLetter c = false)
include hreserved

/-- A character starts lexemes of one rule only. -/
theorem ofFirst?_of_starts (h : rule.starts surface c) : ofFirst? surface c = some rule := by
  by_cases hrule : rule = .identifier
  · subst hrule
    exact if_pos h
  · have hletter := hreserved c (mem_reserved_of_starts h hrule)
    rw [ofFirst?, if_neg (by simp [hletter]), ofReserved?_of_starts h hrule]

theorem starts_unique {rule' : Rule} (h : rule.starts surface c) (h' : rule'.starts surface c) :
    rule = rule' :=
  Option.some.inj ((ofFirst?_of_starts hreserved h).symm.trans (ofFirst?_of_starts hreserved h'))

/-- No lexeme starts with a space, a point or an equals sign. -/
theorem not_starts (hc : c ∈ [Text.space, '.', '=']) : ¬rule.starts surface c := by
  intro h
  have hplain : c ∈ Surface.reserved ∧ ofReserved? c = none := by
    simp only [List.mem_cons, List.not_mem_nil, or_false] at hc
    rcases hc with rfl | rfl | rfl <;> decide
  have hfirst := ofFirst?_of_starts hreserved h
  rw [ofFirst?, if_neg (by simp [hreserved c hplain.1]), hplain.2] at hfirst
  simp at hfirst

/-- A lexeme goes on with the first character of another one only if both are identifiers or
both are numbers. -/
theorem eq_of_continues {rule' : Rule} (h : rule.continues surface c)
    (h' : rule'.starts surface c) : rule = rule' ∧ (rule = .identifier ∨ rule = .number) := by
  cases rule with
  | identifier => exact ⟨starts_unique hreserved h h', Or.inl rfl⟩
  | number =>
    rcases h with hdigit | rfl
    · exact ⟨starts_unique hreserved hdigit h', Or.inr rfl⟩
    · exact absurd h' (not_starts hreserved (by decide))
  | operator =>
    obtain rfl : c = '=' := h
    exact absurd h' (not_starts hreserved (by decide))
  | string => exact absurd h id
  | lineBreak => exact absurd h id

theorem not_continues_space : ¬rule.continues surface Text.space := by
  intro h
  cases rule with
  | identifier => exact not_starts hreserved (by decide) (show starts surface .identifier _ from h)
  | number => rcases h with h | h <;> exact absurd h (by decide)
  | operator => exact absurd h (show ¬Text.space = '=' by decide)
  | string => exact h
  | lineBreak => exact h

end Rule

/-- The dialects that have names have no reserved letters. -/
theorem Dialect.isLetter_of_mem_names :
    ∀ entry ∈ Dialect.names, ∀ c ∈ Surface.reserved, entry.2.isLetter c = false := by
  have hall : (Dialect.names.all fun entry =>
      Surface.reserved.all fun c => !entry.2.isLetter c) = true := by
    decide +kernel
  intro entry hentry c hc
  have hletter := List.all_eq_true.mp (List.all_eq_true.mp hall entry hentry) c hc
  simpa using hletter

end ScriptLexer
