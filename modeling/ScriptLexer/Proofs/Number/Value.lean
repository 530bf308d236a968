import ScriptLexer.Lexing
import ScriptLexer.Proofs.Number.CorrectRounding
import ScriptLexer.Proofs.Number.Numeral
import ScriptLexer.Proofs.Text.Digits

set_option autoImplicit false

/-! # The value of a numeral

A numeral of any length stands for a fraction, which is rounded to its value
(`Numeral.value_eq_iff`). The rule for numbers finds the longest numeral at an index of a text, with
this value; so zeros in front of the digits and behind those of the fraction do not change it, and
a larger fraction does not have a smaller value (`Rule.scanAt_number_value`). -/

namespace ScriptLexer

namespace Numeral

variable {numeral : Numeral} {text : Text}

/-! ## The longest numeral -/

/-- The numeral is written at the front of a text, and no longer one is. -/
structure IsLongest (numeral : Numeral) (text : Text) : Prop where
  wellFormed : numeral.WellFormed
  front : numeral.lexeme <+: text
  longest : ∀ s, IsNumeral s → s <+: text → s.length ≤ numeral.lexeme.length

/-- A numeral is the one at the front of its own characters. -/
theorem WellFormed.atFront?_lexeme (h : numeral.WellFormed) :
    atFront? numeral.lexeme = some numeral := by
  obtain ⟨whole, fraction⟩ := numeral
  have hwhole : ∀ c ∈ whole, c.isDigit = true := h.whole.2
  have hfraction : ∀ c ∈ fraction, c.isDigit = true := h.fraction
  have hne : ¬whole.isEmpty = true := by simpa using h.whole.1
  cases fraction with
  | nil =>
    have htake : whole.takeWhile Char.isDigit = whole := List.takeWhile_eq_self_iff.mpr hwhole
    have hdrop : whole.dropWhile Char.isDigit = [] := List.dropWhile_eq_nil_iff.mpr hwhole
    simp only [lexeme, List.isEmpty_nil, if_true, atFront?, htake, hdrop, if_neg hne]
    rfl
  | cons c rest =>
    have htake : (whole ++ '.' :: c :: rest).takeWhile Char.isDigit = whole := by
      rw [List.takeWhile_append_of_pos hwhole]
      simp
    have hdrop : (whole ++ '.' :: c :: rest).dropWhile Char.isDigit = '.' :: c :: rest := by
      rw [List.dropWhile_append_of_pos hwhole]
      simp
    have hall : (c :: rest).takeWhile Char.isDigit = c :: rest :=
      List.takeWhile_eq_self_iff.mpr hfraction
    simp only [lexeme, List.isEmpty_cons, Bool.false_eq_true, if_false, atFront?, htake, hdrop,
      if_neg hne, fractionAtFront, hall]

theorem isLongest_iff : numeral.IsLongest text ↔ atFront? text = some numeral := by
  constructor
  · intro h
    obtain ⟨found, hfound, hle⟩ := exists_atFront?_of_prefix h.wellFormed.isNumeral h.front
    have hwell := wellFormed_of_atFront? hfound
    have hfront := lexeme_prefix_of_atFront? hfound
    -- both are at the front of the text and equally long
    have hlexeme : found.lexeme = numeral.lexeme := by
      refine (List.prefix_of_prefix_length_le hfront h.front ?_).eq_of_length_le hle
      exact h.longest _ hwell.isNumeral hfront
    have hown := hwell.atFront?_lexeme
    rw [hlexeme, h.wellFormed.atFront?_lexeme] at hown
    rw [hfound, hown]
  · intro h
    refine ⟨wellFormed_of_atFront? h, lexeme_prefix_of_atFront? h, fun s hs hfront => ?_⟩
    obtain ⟨found, hfound, hle⟩ := exists_atFront?_of_prefix hs hfront
    rw [h] at hfound
    rwa [Option.some.inj hfound]

theorem IsLongest.unique {numeral' : Numeral} (h : numeral.IsLongest text)
    (h' : numeral'.IsLongest text) : numeral = numeral' := by
  rw [isLongest_iff] at h h'
  rw [h] at h'
  exact Option.some.inj h'

/-! ## The fraction of a numeral -/

/-- The fraction that a numeral stands for. -/
def rational (numeral : Numeral) : Rat :=
  Decimal.ofDigits numeral.whole +
    Decimal.ofDigits numeral.fraction / 10 ^ numeral.fraction.length

/-- The numeral with zeros in front of its digits, and behind those of its fraction. -/
def pad (numeral : Numeral) (zeros more : Nat) : Numeral :=
  ⟨List.replicate zeros '0' ++ numeral.whole, numeral.fraction ++ List.replicate more '0'⟩

theorem rational_ofParts (whole fraction : Text) :
    (Decimal.ofParts whole fraction).rational = rational ⟨whole, fraction⟩ := by
  have hten : (10 : Rat) ^ fraction.length ≠ 0 := pow_ne_zero _ (by decide)
  rw [Decimal.ofParts, Decimal.rational, Decimal.ofDigits_append, zpow_neg, zpow_natCast, rational]
  push_cast
  rw [← div_eq_mul_inv, add_div, mul_div_cancel_right₀ _ hten]

theorem rational_pad (numeral : Numeral) (zeros more : Nat) :
    (numeral.pad zeros more).rational = numeral.rational := by
  have hten : (10 : Rat) ^ more ≠ 0 := pow_ne_zero _ (by decide)
  rw [rational, pad, Decimal.ofDigits_zeros_append, Decimal.ofDigits_append_zeros,
    List.length_append, List.length_replicate, rational]
  push_cast
  rw [pow_add, mul_div_mul_right _ _ hten]

/-- The value of a numeral is the fraction that it stands for, rounded. -/
theorem value_eq_iff {size : Magnitude} :
    numeral.value = ⟨false, size⟩ ↔ Rounds numeral.rational size := by
  rw [← rational_ofParts, Decimal.rounds_iff, value]
  simp

end Numeral

/-! ## The rule for numbers -/

namespace Rule

variable {surface : Surface} {text : Text} {index : Nat}

/-- The rule for numbers finds the longest numeral. -/
theorem scanAt_number_eq_some_iff {found : Scan} :
    number.scanAt surface text index = .ok (some found) ↔
      ∃ (numeral : Numeral) (size : Magnitude), numeral.IsLongest (text.drop index) ∧
        Rounds numeral.rational size ∧
        found = .token (.number ⟨false, size⟩) numeral.lexeme := by
  have hscan : number.scanAt surface text index = .ok (scanNumber (text.drop index)) := rfl
  rw [hscan, Except.ok.injEq, scanNumber, Option.map_eq_some_iff]
  constructor
  · rintro ⟨numeral, hnumeral, rfl⟩
    exact ⟨numeral, _, Numeral.isLongest_iff.mpr hnumeral, Numeral.value_eq_iff.mp rfl, rfl⟩
  · rintro ⟨numeral, size, hlongest, hrounds, rfl⟩
    refine ⟨numeral, Numeral.isLongest_iff.mp hlongest, ?_⟩
    rw [Numeral.value_eq_iff.mpr hrounds]

/-- **Numbers of any length have the right value.** The rule for numbers finds the longest numeral
at an index of a text. Its value is the fraction that the numeral stands for, rounded to the nearest
finite number, of two equally near ones to the even one, and infinite exactly from halfway beyond
the largest finite number on. With zeros in front of the digits, and behind those of the fraction,
the same number is found, and where the fraction is larger the value is not smaller. -/
theorem scanAt_number_value {found : Scan}
    (h : number.scanAt surface text index = .ok (some found)) :
    ∃ (numeral : Numeral) (size : Magnitude), numeral.IsLongest (text.drop index) ∧
      found = .token (.number ⟨false, size⟩) numeral.lexeme ∧
      Rounds numeral.rational size ∧ (size = .infinite ↔ 2 ^ 1024 - 2 ^ 970 ≤ numeral.rational) ∧
      (∀ zeros more text' index', (numeral.pad zeros more).IsLongest (text'.drop index') →
        number.scanAt surface text' index' =
          .ok (some (.token (.number ⟨false, size⟩) (numeral.pad zeros more).lexeme))) ∧
      ∀ (numeral' : Numeral) (size' : Magnitude) text' index',
        numeral'.IsLongest (text'.drop index') →
        number.scanAt surface text' index' =
          .ok (some (.token (.number ⟨false, size'⟩) numeral'.lexeme)) →
        numeral.rational ≤ numeral'.rational → size.value ≤ size'.value := by
  obtain ⟨numeral, size, hlongest, hrounds, rfl⟩ := scanAt_number_eq_some_iff.mp h
  refine ⟨numeral, size, hlongest, rfl, hrounds, hrounds.eq_infinite_iff, ?_, ?_⟩
  · intro zeros more text' index' hlongest'
    rw [scanAt_number_eq_some_iff]
    refine ⟨_, size, hlongest', ?_, rfl⟩
    rwa [Numeral.rational_pad]
  · intro numeral' size' text' index' hlongest' hscan hle
    obtain ⟨numeral'', size'', hlongest'', hrounds'', heq⟩ := scanAt_number_eq_some_iff.mp hscan
    obtain rfl := hlongest'.unique hlongest''
    obtain ⟨htoken, -⟩ := Scan.token.inj heq
    obtain ⟨-, rfl⟩ := Number.mk.inj (Token.number.inj htoken)
    exact hrounds.value_le hrounds'' hle

/-- Halfway between two whole numbers of 53 bits, the even one is the value. -/
theorem scanAt_number_value_halfway :
    number.scanAt Dialect.full.surface "(09007199254740993.00)".toList 1 =
        .ok (some (.token (.number ⟨false, .finite (2 ^ 1127)⟩) "09007199254740993.00".toList)) ∧
      Rounds (Numeral.rational ⟨"09007199254740993".toList, "00".toList⟩) (.finite (2 ^ 1127)) := by
  have hscan : number.scanAt Dialect.full.surface "(09007199254740993.00)".toList 1 =
      .ok (some (.token (.number ⟨false, .finite (2 ^ 1127)⟩) "09007199254740993.00".toList)) := by
    decide +kernel
  obtain ⟨numeral, size, hlongest, hfound, hrounds, -⟩ := scanAt_number_value hscan
  obtain ⟨htoken, hlexeme⟩ := Scan.token.inj hfound
  obtain ⟨-, rfl⟩ := Number.mk.inj (Token.number.inj htoken)
  have hnumeral := hlongest.wellFormed.atFront?_lexeme
  rw [← hlexeme] at hnumeral
  have hown : Numeral.atFront? "09007199254740993.00".toList =
      some ⟨"09007199254740993".toList, "00".toList⟩ := by decide
  rw [hown] at hnumeral
  obtain rfl := Option.some.inj hnumeral
  exact ⟨hscan, hrounds⟩

end Rule

end ScriptLexer
