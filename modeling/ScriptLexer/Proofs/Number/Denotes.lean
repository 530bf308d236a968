import ScriptLexer.Proofs.Number.ReadBack
import ScriptLexer.Proofs.Number.Value
import ScriptLexer.Proofs.Text.RowAround

set_option autoImplicit false

/-! # What a written decimal denotes

A numeral, perhaps with an exponent behind it, denotes a fraction (`Decimal.Denotes`), and only one.
A text that spells a size denotes a fraction that is rounded to it
(`Decimal.Spells.exists_denotes`). However the digits of a decimal are set out, only zeros stand
around them, so the text has no more significant digits than the decimal
(`Decimal.length_significantDigits_text`). -/

namespace ScriptLexer

/-! ## What a written decimal denotes -/

namespace Decimal

open Numeral (IsDigits)

/-- What stands behind a numeral: nothing, or a letter and an integer, which is a power of ten. -/
inductive IsExponent : Text → Int → Prop where
  | none : IsExponent [] 0
  | unsigned {letter : Char} {digits : Text} (hletter : letter = 'e' ∨ letter = 'E')
      (hdigits : IsDigits digits) : IsExponent (letter :: digits) (ofDigits digits)
  | plus {letter : Char} {digits : Text} (hletter : letter = 'e' ∨ letter = 'E')
      (hdigits : IsDigits digits) : IsExponent (letter :: '+' :: digits) (ofDigits digits)
  | minus {letter : Char} {digits : Text} (hletter : letter = 'e' ∨ letter = 'E')
      (hdigits : IsDigits digits) : IsExponent (letter :: '-' :: digits) (-(ofDigits digits : Int))

/-- A numeral, perhaps with an exponent behind it, denotes a fraction. -/
inductive Denotes : Text → Rat → Prop where
  | intro {numeral : Numeral} {exponent : Text} {power : Int} (hnumeral : numeral.WellFormed)
      (hexponent : IsExponent exponent power) :
      Denotes (numeral.lexeme ++ exponent) (numeral.rational * 10 ^ power)

variable {text : Text} {power : Int} {q q' : Rat} {size : Magnitude}

theorem unsigned_eq_some_iff {digits : Text} {n : Nat} :
    (if digits.isEmpty || !digits.all Char.isDigit then Option.none else some (ofDigits digits)) =
        some n ↔ IsDigits digits ∧ ofDigits digits = n := by
  by_cases hdigits : IsDigits digits
  · have hall : digits.all Char.isDigit = true := List.all_eq_true.mpr hdigits.2
    simp [hdigits, hdigits.1, hall]
  · have hfault : (digits.isEmpty || !digits.all Char.isDigit) = true := by
      by_contra hnot
      simp only [Bool.or_eq_true, not_or, List.isEmpty_iff, Bool.not_eq_true', Bool.not_eq_false,
        List.all_eq_true] at hnot
      exact hdigits hnot
    simp [hdigits, hfault]

theorem isDigits_of_map {digits : Text} {sign : Int → Int}
    (h : Option.map sign ((if digits.isEmpty || !digits.all Char.isDigit then Option.none
      else some (ofDigits digits)) >>= fun n => pure (n : Int)) = some power) :
    IsDigits digits ∧ sign (ofDigits digits) = power := by
  obtain ⟨signless, hbind, rfl⟩ := Option.map_eq_some_iff.mp h
  obtain ⟨n, hnumber, hcast⟩ := Option.bind_eq_some_iff.mp hbind
  obtain ⟨hdigits, rfl⟩ := unsigned_eq_some_iff.mp hnumber
  exact ⟨hdigits, congrArg sign (Option.some.inj hcast)⟩

theorem isExponent_iff : IsExponent text power ↔ exponentOfText? text = some power := by
  constructor
  · intro h
    cases h with
    | none => rfl
    | @unsigned letter digits hletter hdigits =>
      obtain ⟨c, rest, rfl, hc⟩ := hdigits.exists_cons
      have hnumber := unsigned_eq_some_iff.mpr ⟨hdigits, rfl⟩
      have hminus : c ≠ '-' := by
        rintro rfl
        exact absurd hc (by decide)
      have hplus : c ≠ '+' := by
        rintro rfl
        exact absurd hc (by decide)
      simp only [exponentOfText?, if_pos hletter]
      split
      next heq => exact absurd (List.cons.inj heq).1 hminus
      next heq => exact absurd (List.cons.inj heq).1 hplus
      next => rw [hnumber]; rfl
    | plus hletter hdigits =>
      simp only [exponentOfText?, if_pos hletter, unsigned_eq_some_iff.mpr ⟨hdigits, rfl⟩]
      rfl
    | minus hletter hdigits =>
      simp only [exponentOfText?, if_pos hletter, unsigned_eq_some_iff.mpr ⟨hdigits, rfl⟩]
      rfl
  · intro h
    cases text with
    | nil =>
      obtain rfl : 0 = power := Option.some.inj h
      exact IsExponent.none
    | cons letter rest =>
      by_cases hletter : letter = 'e' ∨ letter = 'E'
      · simp only [exponentOfText?, if_pos hletter] at h
        split at h
        next digits =>
          obtain ⟨hdigits, hpower⟩ := isDigits_of_map h
          subst hpower
          exact IsExponent.minus hletter hdigits
        next digits =>
          obtain ⟨hdigits, hpower⟩ := isDigits_of_map h
          subst hpower
          exact IsExponent.plus hletter hdigits
        next =>
          obtain ⟨hdigits, hpower⟩ := isDigits_of_map h
          subst hpower
          exact IsExponent.unsigned hletter hdigits
      · simp only [exponentOfText?, if_neg hletter] at h
        cases h

theorem IsExponent.head?_ne (h : IsExponent text power) :
    ∀ c ∈ text.head?, c.isDigit = false ∧ c ≠ '.' := by
  have hletters : ∀ letter : Char, letter = 'e' ∨ letter = 'E' →
      letter.isDigit = false ∧ letter ≠ '.' := by
    rintro letter (rfl | rfl)
    · decide
    · decide
  cases h with
  | none => simp
  | unsigned hletter _ => simpa using hletters _ hletter
  | plus hletter _ => simpa using hletters _ hletter
  | minus hletter _ => simpa using hletters _ hletter

/-- The fraction of a numeral, moved by a power of ten. -/
theorem rational_append (whole fraction : Text) (power : Int) :
    rational ⟨ofDigits (whole ++ fraction), -(fraction.length : Int) + power⟩ =
      Numeral.rational ⟨whole, fraction⟩ * 10 ^ power := by
  rw [← Numeral.rational_ofParts, ofParts, rational, rational, zpow_add₀ (by decide), mul_assoc]

/-- What a text denotes is what is read off it. -/
theorem Denotes.map_ofText? (h : Denotes text q) : (ofText? text).map rational = some q := by
  cases h with
  | @intro numeral exponent power hnumeral hexponent =>
    rw [hnumeral.decimal_ofText?_append hexponent.head?_ne, isExponent_iff.mp hexponent,
      Option.map_some, Option.map_some, rational_append]

/-- A text denotes one fraction only. -/
theorem Denotes.unique (h : Denotes text q) (h' : Denotes text q') : q = q' := by
  have hread := h.map_ofText?
  rw [h'.map_ofText?] at hread
  exact (Option.some.inj hread).symm

/-- A text that spells a size denotes a fraction that is rounded to it. -/
theorem Spells.exists_denotes (h : Spells text size) : ∃ q, Denotes text q ∧ Rounds q size := by
  obtain ⟨numeral, exponent, power, hnumeral, rfl, -, hexponent, hsize⟩ := h
  refine ⟨_, Denotes.intro hnumeral (isExponent_iff.mpr hexponent), ?_⟩
  rw [← rational_append]
  exact rounds_iff.mpr hsize

/-- Without a letter in it, a text that spells a size is a numeral. -/
theorem Spells.isNumeral (h : Spells text size) (hplain : ∀ c ∈ text, c.isDigit = true ∨ c = '.') :
    Numeral.IsNumeral text := by
  obtain ⟨numeral, exponent, power, hnumeral, rfl, hhead, -, -⟩ := h
  cases exponent with
  | nil =>
    rw [List.append_nil]
    exact hnumeral.isNumeral
  | cons c rest =>
    obtain ⟨hdigit, hpoint⟩ := hhead c rfl
    rcases hplain c (by simp) with hc | hc
    · rw [hdigit] at hc
      exact absurd hc (by decide)
    · exact absurd hc hpoint

end Decimal

/-! ## The significant digits of a text -/

namespace Text

/-- The digits of a written decimal in front of its exponent, without the zeros at both ends. -/
def significantDigits (text : Text) : Text :=
  trim (· == '0') ((text.takeWhile (· != 'e')).filter Char.isDigit)

/-- Zeros around digits are not significant. -/
theorem length_trim_zeros_le (front back : Nat) (digits : Text) :
    (trim (· == '0') (List.replicate front '0' ++ (digits ++ List.replicate back '0'))).length ≤
      digits.length := by
  have hzeros : ∀ count, ∀ c ∈ List.replicate count '0', (c == '0') = true := by
    intro count c hc
    rw [List.eq_of_mem_replicate hc]
    rfl
  rw [trim, List.dropWhile_append_of_pos (hzeros front), List.dropWhile_append]
  split
  · rw [List.dropWhile_eq_nil_iff.mpr (hzeros back)]
    exact Nat.zero_le _
  · rw [trimEnd_append (hzeros back)]
    exact (length_trimEnd_le _ _).trans (List.dropWhile_sublist _).length_le

end Text

namespace Layout

/-- Of digits around a point, only the point is left out. -/
theorem filter_point {whole fraction : Text} (hwhole : ∀ c ∈ whole, c.isDigit = true)
    (hfraction : ∀ c ∈ fraction, c.isDigit = true) :
    (whole ++ '.' :: fraction).filter Char.isDigit = whole ++ fraction := by
  rw [List.filter_append, List.filter_eq_self.mpr hwhole, List.filter_cons,
    List.filter_eq_self.mpr hfraction]
  rfl

variable {digits : Text} (hdigits : ∀ c ∈ digits, c.isDigit = true)
include hdigits

theorem mem_positional {point : Int} {c : Char} (h : c ∈ positional digits point) :
    c.isDigit = true ∨ c = '.' := by
  have hzero : ∀ d, d = '0' → d.isDigit = true := by
    rintro d rfl
    rfl
  unfold positional at h
  split at h
  next count =>
    split at h
    · simp only [List.mem_cons] at h
      exact h.elim (Or.inl ∘ hzero c) fun h => h.elim Or.inr (Or.inl ∘ hdigits c)
    · simp only [List.mem_append, List.mem_cons] at h
      rcases h with (h | h) | h | h
      · exact Or.inl (hdigits c (List.mem_of_mem_take h))
      · exact Or.inl (isDigit_of_mem_zeros h)
      · exact Or.inr h
      · split at h
        · exact Or.inl (hzero c (List.mem_singleton.mp h))
        · exact Or.inl (hdigits c (List.mem_of_mem_drop h))
  next zeros =>
    simp only [List.mem_cons, List.mem_append] at h
    rcases h with h | h | h | h
    · exact Or.inl (hzero c h)
    · exact Or.inr h
    · exact Or.inl (isDigit_of_mem_zeros h)
    · exact Or.inl (hdigits c h)

/-- Set out without an exponent, digits have only zeros around them. -/
theorem exists_filter_positional (point : Int) : ∃ front back,
    (positional digits point).filter Char.isDigit =
      List.replicate front '0' ++ (digits ++ List.replicate back '0') := by
  have hzeros : ∀ count, ∀ c ∈ List.replicate count '0', c.isDigit = true :=
    fun count c hc => isDigit_of_mem_zeros hc
  unfold positional
  split
  next count =>
    split
    · exact ⟨1, 0, by simpa using filter_point (hzeros 1) hdigits⟩
    by_cases hlt : count < digits.length
    · have hnone : count - digits.length = 0 := by omega
      have hfraction : (digits.drop count).isEmpty = false := by
        rw [List.isEmpty_eq_false_iff, Ne, List.drop_eq_nil_iff]
        omega
      have hwhole : ∀ c ∈ digits.take count, c.isDigit = true :=
        fun c hc => hdigits c (List.mem_of_mem_take hc)
      have hback : ∀ c ∈ digits.drop count, c.isDigit = true :=
        fun c hc => hdigits c (List.mem_of_mem_drop hc)
      refine ⟨0, 0, ?_⟩
      simp only [hnone, hfraction, List.replicate_zero, List.append_nil, List.nil_append]
      exact (filter_point hwhole hback).trans (List.take_append_drop count digits)
    · have hle : digits.length ≤ count := Nat.le_of_not_lt hlt
      have hwhole : ∀ c ∈ digits ++ List.replicate (count - digits.length) '0',
          c.isDigit = true :=
        fun c hc => (List.mem_append.mp hc).elim (hdigits c) (hzeros _ c)
      refine ⟨0, count - digits.length + 1, ?_⟩
      simp only [List.take_of_length_le hle, List.drop_of_length_le hle]
      rw [List.replicate_zero, List.nil_append, List.replicate_succ', ← List.append_assoc]
      exact filter_point hwhole (hzeros 1)
  next zeros =>
    have hfraction : ∀ c ∈ List.replicate (zeros + 1) '0' ++ digits, c.isDigit = true :=
      fun c hc => (List.mem_append.mp hc).elim (hzeros _ c) (hdigits c)
    refine ⟨zeros + 2, 0, ?_⟩
    rw [List.replicate_zero, List.append_nil, List.replicate_succ]
    exact filter_point (hzeros 1) hfraction

/-- Set out with an exponent, digits have nothing else in front of it. -/
theorem filter_scientific (power : Int) :
    ((scientific digits power).takeWhile (· != 'e')).filter Char.isDigit = digits := by
  have hletter : ∀ c ∈ digits, (c != 'e') = true := by
    intro c hc
    rw [bne_iff_ne]
    rintro rfl
    exact absurd (hdigits 'e' hc) (by decide)
  have htake : ∀ front : Text, (∀ c ∈ front, (c != 'e') = true) →
      (front ++ exponent power).takeWhile (· != 'e') = front := by
    intro front hfront
    rw [List.takeWhile_append_of_pos hfront, exponent, List.takeWhile_cons]
    simp
  have hsplit := List.take_append_drop 1 digits
  unfold scientific
  simp only
  split
  next hnone =>
    rw [List.isEmpty_iff] at hnone
    rw [hnone, List.append_nil] at hsplit
    rw [List.append_nil, hsplit, htake _ hletter, List.filter_eq_self.mpr hdigits]
  next hsome =>
    rw [htake, filter_point, hsplit]
    · exact fun c hc => hdigits c (List.mem_of_mem_take hc)
    · exact fun c hc => hdigits c (List.mem_of_mem_drop hc)
    · intro c hc
      rw [List.mem_append, List.mem_cons] at hc
      rcases hc with hc | rfl | hc
      · exact hletter c (List.mem_of_mem_take hc)
      · rfl
      · exact hletter c (List.mem_of_mem_drop hc)

end Layout

namespace Decimal

theorem isDigit_of_mem_significantDigits {decimal : Decimal} {c : Char}
    (h : c ∈ decimal.significantDigits) : c.isDigit = true := by
  obtain ⟨zeros, hdigits⟩ := decimal.exists_ofNat_coefficient
  refine Text.isDigit_of_mem_ofNat (n := decimal.coefficient) ?_
  rw [hdigits]
  exact List.mem_append_left _ h

/-- A decimal is written with no more significant digits than it has. -/
theorem length_significantDigits_text (decimal : Decimal) :
    (Text.significantDigits decimal.text).length ≤ decimal.significantDigits.length := by
  have hdigits : ∀ c ∈ decimal.significantDigits, c.isDigit = true :=
    fun c hc => isDigit_of_mem_significantDigits hc
  unfold text
  simp only
  split
  · exact Nat.zero_le _
  split
  · have hplain : ∀ c ∈ Layout.positional decimal.significantDigits (decimal.leadingPower + 1),
        (c != 'e') = true := by
      intro c hc
      rw [bne_iff_ne]
      rintro rfl
      exact absurd (Layout.mem_positional hdigits hc) (by decide)
    obtain ⟨front, back, hfilter⟩ :=
      Layout.exists_filter_positional hdigits (decimal.leadingPower + 1)
    rw [Text.significantDigits, List.takeWhile_eq_self_iff.mpr hplain, hfilter]
    exact Text.length_trim_zeros_le front back _
  · have hzeros := Text.length_trim_zeros_le 0 0 decimal.significantDigits
    rw [List.replicate_zero, List.nil_append, List.append_nil] at hzeros
    rw [Text.significantDigits, Layout.filter_scientific hdigits]
    exact hzeros

end Decimal

end ScriptLexer
