import ScriptLexer.Proofs.Number.Denotes
import ScriptLexer.Proofs.Number.FewestDigits
import ScriptLexer.Proofs.Reserved
import ScriptLexer.Proofs.Segmentation

set_option autoImplicit false

/-! # Shown numbers

A number that has been read is shown by a text that denotes a fraction rounded to it, with as few
significant digits as any decimal that is rounded to it. In the range where no exponent is shown
(`Shortest.leadingPower_decimal`), the text is a numeral of the language, and is lexed to the number
again (`Rule.scanAt_number_shown`). -/

namespace ScriptLexer

/-! ## Numbers without an exponent -/

namespace Decimal

variable {decimal : Decimal}

/-- The first digit of a decimal tells its decade. -/
theorem leadingPower_bounds (hpos : 0 < decimal.coefficient) :
    (10 : Rat) ^ decimal.leadingPower ≤ decimal.rational ∧
      decimal.rational < 10 ^ (decimal.leadingPower + 1) := by
  have hlength := Text.length_ofNat_pos decimal.coefficient
  have hfirst : decimal.leadingPower =
      (((Text.ofNat decimal.coefficient).length - 1 : Nat) : Int) + decimal.exponent := by
    unfold leadingPower
    omega
  have hnext : decimal.leadingPower + 1 =
      ((Text.ofNat decimal.coefficient).length : Int) + decimal.exponent := by
    unfold leadingPower
    omega
  rw [hnext, hfirst]
  exact ⟨pow_le_rational (Text.pow_length_le hpos) _, rational_lt_pow (Text.lt_pow_length _) _⟩

end Decimal

namespace Shortest

open Decimal (rational)

variable {units : Nat}

theorem rational_exactly (units : Nat) :
    rational ⟨exactly units, -1074⟩ = units / 2 ^ 1074 := by
  have hexponent : (-1074 : Int) = ((0 : Nat) : Int) - (1074 : Nat) := rfl
  rw [hexponent, Decimal.rational_sub]
  unfold exactly
  generalize 1074 = places
  have hten : ((10 ^ places : Nat) : Rat) = 2 ^ places * 5 ^ places := by
    rw [← mul_pow]
    norm_num
  have hfive : (5 : Rat) ^ places ≠ 0 := pow_ne_zero _ (by decide)
  have hcast : ((units * Nat.pow 5 places * 10 ^ 0 : Nat) : Rat) = units * 5 ^ places := by
    rw [Nat.pow_zero, Nat.mul_one, Nat.cast_mul]
    exact congrArg _ (Nat.cast_pow 5 places)
  rw [hten, hcast, mul_div_mul_right _ _ hfive]

/-- Ten to the sixteenth power is a finite number, so it is rounded to itself. -/
theorem value_of_rounds (h : Rounds (10 ^ 16) (.finite units)) :
    (units / 2 ^ 1074 : Rat) = 10 ^ 16 := by
  obtain ⟨d, hunits⟩ := @Double.exists_units_eq (5 ^ 16) (16 + 1074) (by decide) (by decide)
  have hvalue : d.value = 10 ^ 16 := by
    rw [Double.value, hunits]
    generalize 1074 = places
    have htwo : (2 : Rat) ^ places ≠ 0 := pow_ne_zero _ (by decide)
    rw [pow_add]
    push_cast
    rw [← mul_assoc, mul_div_cancel_right₀ _ htwo]
    norm_num
  cases h with
  | finite _ hnearest hsize =>
    rw [← hvalue] at hnearest ⊢
    rw [← hsize, hnearest.value_eq_self]

/-- From `10 ^ (-4)` on and below `10 ^ 16`, no exponent is shown. -/
theorem leadingPower_decimal (hpos : 0 < units) (hunits : (Magnitude.finite units).IsBinary64)
    (hlow : (10 : Rat) ^ (-4 : Int) ≤ units / 2 ^ 1074)
    (hhigh : (units / 2 ^ 1074 : Rat) < 10 ^ 16) :
    -4 ≤ (decimal units).leadingPower ∧ (decimal units).leadingPower < 16 := by
  have hlt : ∀ {a b : Int}, (10 : Rat) ^ a < 10 ^ b → a < b :=
    (zpow_lt_zpow_iff_right₀ (by decide)).mp
  -- the number and the decimal are in one decade
  obtain ⟨hbelow, habove⟩ := exactly_decade hpos
  obtain ⟨hfirst, hlast⟩ := decimal_decade hpos hunits
  have hwidth := width_pos units
  rw [rational_exactly] at hbelow habove
  have hcoefficient : 0 < (decimal units).coefficient := by
    rcases Nat.eq_zero_or_pos (decimal units).coefficient with hzero | hcoefficient
    · have hpower : (0 : Rat) < 10 ^ (((width units - 1 : Nat) : Int) + -1074) :=
        zpow_pos (by decide) _
      rw [rational, hzero, Nat.cast_zero, zero_mul] at hfirst
      exact absurd hfirst (not_le.mpr hpower)
    · exact hcoefficient
  obtain ⟨hdigit, hnext⟩ := Decimal.leadingPower_bounds hcoefficient
  constructor
  · have hsize := hlt (hlow.trans_lt habove)
    have hleading := hlt (hfirst.trans_lt hnext)
    omega
  · -- the upper end of the decade could be reached by the decimal, but not by the number
    have hsize := hlt (hbelow.trans_lt (hhigh.trans_eq (zpow_natCast 10 16).symm))
    have hle : (decimal units).rational ≤ 10 ^ (16 : Int) :=
      hlast.trans (zpow_le_zpow_right₀ (by decide) (by omega))
    have hne : (decimal units).rational ≠ 10 ^ (16 : Int) := by
      intro heq
      have hrounds := Decimal.rounds_iff.mpr (nearest_decimal hunits)
      rw [heq] at hrounds
      exact hhigh.ne (value_of_rounds hrounds)
    exact hlt (hdigit.trans_lt (lt_of_le_of_ne hle hne))

end Shortest

/-- A decimal is written as a numeral if its digits are set out without an exponent. -/
theorem Decimal.isNumeral_text {decimal : Decimal} (h : decimal.significantDigits = [] ∨
    -4 ≤ decimal.leadingPower ∧ decimal.leadingPower < 16) : Numeral.IsNumeral decimal.text := by
  have hdigits : ∀ c ∈ decimal.significantDigits, c.isDigit = true :=
    fun c hc => isDigit_of_mem_significantDigits hc
  refine decimal.spells_text.isNumeral fun c hc => ?_
  unfold text at hc
  simp only [List.isEmpty_iff] at hc
  split at hc
  · have hall : "0.0".toList.all (fun c => c.isDigit || c == '.') = true := rfl
    simpa using List.all_eq_true.mp hall c hc
  next hne =>
    have hpositional : Layout.lowestPositional ≤ decimal.leadingPower ∧
        decimal.leadingPower < Layout.lowestScientific := h.resolve_left hne
    rw [if_pos hpositional] at hc
    exact Layout.mem_positional hdigits hc

namespace Dialect

variable {dialect : Dialect} {text : Text} {number : Number}

/-- A numeral alone is lexed to its number, where no digit is a letter. -/
theorem lex_numeral (hdigits : ∀ c : Char, c.isDigit = true → dialect.isLetter c = false)
    (hnumeral : Numeral.IsNumeral text) (hvalue : Number.ofText? text = some number) :
    dialect.lex text = ⟨[⟨.number number, Position.start⟩], none⟩ := by
  obtain ⟨c, rest, htext, hc⟩ := hnumeral.exists_cons
  have hspace : text.head? ≠ some Text.space := by
    rw [htext]
    rintro ⟨⟩
    exact absurd hc (by decide)
  have hlongest : Rule.number.Longest dialect.surface (text ++ []) (.number number) text :=
    (Lexeme.number hnumeral hvalue).longest (by simp)
  rw [List.append_nil] at hlongest
  refine lex_munch hspace ⟨hlongest, fun earlier hrank happlies => ?_⟩
  obtain ⟨first, more, heq, hfirst⟩ := happlies.starts
  obtain rfl : c = first := (List.cons.inj (htext.symm.trans heq)).1
  cases earlier with
  | identifier =>
    have hletter : dialect.isLetter c = true := hfirst
    rw [hdigits c hc] at hletter
    exact absurd hletter (by decide)
  | number => exact absurd hrank (by decide)
  | operator => exact absurd hrank (by decide)
  | string => exact absurd hrank (by decide)
  | lineBreak => exact absurd hrank (by decide)

end Dialect

/-! ## Numbers that are read and shown -/

theorem Number.text_finite (units : Nat) :
    (⟨false, .finite units⟩ : Number).text = (Shortest.decimal units).text := by
  rw [Number.text, if_neg Bool.false_ne_true, Magnitude.text]

theorem Token.text_number (number : Number) :
    (Token.number number).text = "Token(NUMBER, ".toList ++ number.text ++ [')'] := by
  unfold text
  simp only [payloadText?]
  generalize number.text = shown
  rfl

namespace Rule

variable {surface : Surface} {text : Text} {index : Nat} {number : Number} {lexeme : Text}

/-- What the rule for numbers finds is held by 53 bits and is not negative. -/
theorem isBinary64_of_scanAt
    (h : Rule.number.scanAt surface text index = .ok (some (.token (.number number) lexeme))) :
    number.negative = false ∧ number.magnitude.IsBinary64 := by
  obtain ⟨numeral, size, -, hrounds, heq⟩ := scanAt_number_eq_some_iff.mp h
  obtain ⟨htoken, -⟩ := Scan.token.inj heq
  obtain rfl := Token.number.inj htoken
  refine ⟨rfl, ?_⟩
  rw [← Numeral.rational_ofParts, Decimal.rounds_iff] at hrounds
  rw [← hrounds]
  exact Decimal.isBinary64_nearest _

/-- **A number that is shown is read back.** The text by which a finite number that the rule for
numbers finds is shown denotes one fraction, and this is rounded to the number. No decimal with
fewer significant digits is. If the number is zero, or at least `10 ^ (-4)` and less than
`10 ^ 16`, then the text alone is lexed to the number in every dialect without digits among its
letters. -/
theorem scanAt_number_shown {units : Nat}
    (h : Rule.number.scanAt surface text index = .ok (some (.token (.number number) lexeme)))
    (hfinite : number.magnitude = .finite units) :
    ∃ shown, (Token.number number).text = "Token(NUMBER, ".toList ++ shown ++ [')'] ∧
      (∃ q, (∀ q', Decimal.Denotes shown q' ↔ q' = q) ∧ Rounds q (.finite units)) ∧
      (∀ (coefficient digits : Nat) (exponent : Int), coefficient < 10 ^ digits →
        Rounds (coefficient * 10 ^ exponent) (.finite units) →
        (Text.significantDigits shown).length ≤ digits) ∧
      (units = 0 ∨ (10 : Rat) ^ (-4 : Int) ≤ units / 2 ^ 1074 ∧ (units / 2 ^ 1074 : Rat) < 10 ^ 16 →
        ∀ dialect : Dialect, (∀ c : Char, c.isDigit = true → dialect.isLetter c = false) →
          dialect.lex shown = ⟨[⟨.number number, Position.start⟩], none⟩) := by
  obtain ⟨hsign, hbinary⟩ := isBinary64_of_scanAt h
  obtain ⟨negative, magnitude⟩ := number
  obtain rfl : negative = false := hsign
  obtain rfl : magnitude = .finite units := hfinite
  have hnearest := Shortest.nearest_decimal hbinary
  refine ⟨(Shortest.decimal units).text, ?_, ?_, ?_, ?_⟩
  · rw [← Number.text_finite, Token.text_number]
  · have hspells := (Shortest.decimal units).spells_text
    rw [hnearest] at hspells
    obtain ⟨q, hdenotes, hrounds⟩ := hspells.exists_denotes
    refine ⟨q, fun q' => ⟨fun h' => h'.unique hdenotes, ?_⟩, hrounds⟩
    rintro rfl
    exact hdenotes
  · intro coefficient digits exponent hlt hrounds
    have hread : Decimal.nearest ⟨coefficient, exponent⟩ = .finite units :=
      Decimal.rounds_iff.mp hrounds
    exact (Decimal.length_significantDigits_text _).trans
      (Shortest.length_significantDigits_le hbinary hlt hread)
  · intro hrange dialect hdigits
    have hplain : (Shortest.decimal units).significantDigits = [] ∨
        -4 ≤ (Shortest.decimal units).leadingPower ∧
          (Shortest.decimal units).leadingPower < 16 := by
      rcases Nat.eq_zero_or_pos units with rfl | hpos
      · left
        have hzero : (0 : Nat) < 10 ^ 0 := by decide
        have hlength := Shortest.length_significantDigits_le hbinary hzero (Decimal.nearest_zero 0)
        exact List.eq_nil_of_length_eq_zero (Nat.le_zero.mp hlength)
      · right
        obtain ⟨hlow, hhigh⟩ := hrange.resolve_left hpos.ne'
        exact Shortest.leadingPower_decimal hpos hbinary hlow hhigh
    have hvalue := @Number.ofText?_text ⟨false, .finite units⟩ hbinary
    rw [Number.text_finite] at hvalue
    exact Dialect.lex_numeral hdigits (Decimal.isNumeral_text hplain) hvalue

/-- The power of two below a fraction that is halfway to the next number. -/
theorem scanAt_number_shown_power :
    Rule.number.scanAt Dialect.full.surface "9007199254740993".toList 0 =
        .ok (some (.token (.number ⟨false, .finite (2 ^ 1127)⟩) "9007199254740993".toList)) ∧
      (Token.number ⟨false, .finite (2 ^ 1127)⟩).text =
        "Token(NUMBER, 9007199254740992.0)".toList ∧
      (∀ (coefficient digits : Nat) (exponent : Int), coefficient < 10 ^ digits →
        Rounds (coefficient * 10 ^ exponent) (.finite (2 ^ 1127)) → 16 ≤ digits) ∧
      Dialect.full.lex "9007199254740992.0".toList =
        ⟨[⟨.number ⟨false, .finite (2 ^ 1127)⟩, Position.start⟩], none⟩ := by
  have hscan : Rule.number.scanAt Dialect.full.surface "9007199254740993".toList 0 =
      .ok (some (.token (.number ⟨false, .finite (2 ^ 1127)⟩) "9007199254740993".toList)) := by
    decide +kernel
  have htext : (Token.number ⟨false, .finite (2 ^ 1127)⟩).text =
      "Token(NUMBER, 9007199254740992.0)".toList := by
    decide +kernel
  obtain ⟨shown, hshown, -, hfewest, hlex⟩ := scanAt_number_shown hscan rfl
  have hsplit : "Token(NUMBER, 9007199254740992.0)".toList =
      "Token(NUMBER, ".toList ++ "9007199254740992.0".toList ++ [')'] := by decide
  rw [htext, hsplit] at hshown
  obtain rfl := List.append_cancel_left (List.append_cancel_right hshown)
  have hdigits : (Text.significantDigits "9007199254740992.0".toList).length = 16 := by decide
  have hvalue : ((2 ^ 1127 : Nat) : Rat) / 2 ^ 1074 = 2 ^ 53 := by
    have hplaces : 1127 = 53 + 1074 := rfl
    rw [hplaces]
    generalize 1074 = places
    push_cast
    rw [pow_add, mul_div_cancel_right₀ _ (pow_ne_zero places (by decide))]
  rw [hdigits] at hfewest
  refine ⟨hscan, htext, hfewest, hlex (Or.inr ?_) _ fun c hc => ?_⟩
  · rw [hvalue]
    norm_num
  · exact Dialect.isLetter_of_mem_names ("full".toList, Dialect.full) (by simp [Dialect.names]) c
      (Surface.mem_reserved_of_isDigit hc)

end Rule

end ScriptLexer
