import ScriptLexer.Number.Decimal
import Mathlib.Algebra.Group.Nat.Defs

set_option autoImplicit false

/-! # Decimal digits

The spellings of whole numbers are made of digits, with a minus sign in front of those that are
negative, and are read back by the worth of their digits (`Decimal.ofDigits_ofNat`). Digits in a
row are worth what the first of them are worth, moved by as many places as others follow
(`Decimal.ofDigits_append`). -/

namespace ScriptLexer

namespace Text

theorem isDigit_of_mem_ofNat {n : Nat} {c : Char} (h : c ∈ ofNat n) : c.isDigit = true :=
  Nat.isDigit_of_mem_toDigits (by decide) (by decide) h

theorem mem_ofInt {n : Int} {c : Char} (h : c ∈ ofInt n) : c.isDigit = true ∨ c = '-' := by
  cases n with
  | ofNat n => exact Or.inl (isDigit_of_mem_ofNat h)
  | negSucc n =>
    rcases List.mem_cons.mp h with rfl | h
    · exact Or.inr rfl
    · exact Or.inl (isDigit_of_mem_ofNat h)

/-- No other characters are in the spelling of a whole number. -/
theorem not_mem_ofInt {c : Char} (hdigit : c.isDigit = false) (hminus : c ≠ '-') (n : Int) :
    c ∉ ofInt n := by
  intro hmem
  rcases mem_ofInt hmem with h | h
  · rw [hdigit] at h
    exact absurd h (by decide)
  · exact hminus h

theorem exists_ofNat_eq_cons (n : Nat) : ∃ c rest, ofNat n = c :: rest ∧ c.isDigit = true := by
  have hne : ofNat n ≠ [] := Nat.toDigits_ne_nil
  obtain ⟨c, rest, heq⟩ := List.exists_cons_of_ne_nil hne
  have hmem : c ∈ ofNat n := by
    rw [heq]
    exact List.mem_cons_self
  exact ⟨c, rest, heq, isDigit_of_mem_ofNat hmem⟩

end Text

namespace Decimal

theorem ofDigits_eq (digits : Text) : ofDigits digits = Nat.ofDigitChars 10 digits 0 :=
  Nat.ofDigitChars_eq_foldl.symm

theorem ofDigits_ofNat (n : Nat) : ofDigits (Text.ofNat n) = n := by
  rw [ofDigits_eq]
  exact Nat.ofDigitChars_ten_toDigits

theorem ofDigits_append (a b : Text) :
    ofDigits (a ++ b) = ofDigits a * 10 ^ b.length + ofDigits b := by
  rw [ofDigits_eq, Nat.ofDigitChars_append, Nat.ofDigitChars_eq_ofDigitChars_zero, ofDigits_eq,
    ofDigits_eq, Nat.mul_comm]

theorem ofDigits_replicate_zero (count : Nat) : ofDigits (List.replicate count '0') = 0 := by
  rw [ofDigits_eq, Nat.ofDigitChars_replicate_zero, Nat.mul_zero]

/-- Zeros in front are worth nothing. -/
theorem ofDigits_zeros_append (count : Nat) (digits : Text) :
    ofDigits (List.replicate count '0' ++ digits) = ofDigits digits := by
  rw [ofDigits_append, ofDigits_replicate_zero, Nat.zero_mul, Nat.zero_add]

/-- Zeros behind digits move them by as many places. -/
theorem ofDigits_append_zeros (digits : Text) (count : Nat) :
    ofDigits (digits ++ List.replicate count '0') = ofDigits digits * 10 ^ count := by
  rw [ofDigits_append, ofDigits_replicate_zero, List.length_replicate, Nat.add_zero]

end Decimal

/-! ## Different numbers are spelled differently -/

namespace Text

theorem ofNat_injective {m n : Nat} (h : ofNat m = ofNat n) : m = n := by
  rw [← Decimal.ofDigits_ofNat m, h, Decimal.ofDigits_ofNat]

theorem ofInt_injective {m n : Int} (h : ofInt m = ofInt n) : m = n := by
  -- the spelling of a natural number starts with a digit
  have hsign : ∀ a b : Nat, ofNat a ≠ '-' :: ofNat b := by
    intro a b heq
    have hmem : '-' ∈ ofNat a := heq ▸ List.mem_cons_self
    exact absurd (isDigit_of_mem_ofNat hmem) (by decide)
  cases m with
  | ofNat a =>
    cases n with
    | ofNat b => rw [ofNat_injective h]
    | negSucc b => exact absurd h (hsign a (b + 1))
  | negSucc a =>
    cases n with
    | ofNat b => exact absurd h.symm (hsign b (a + 1))
    | negSucc b => rw [Nat.succ.inj (ofNat_injective (List.cons.inj h).2)]

end Text

end ScriptLexer
