import ScriptLexer.Number.Layout
import ScriptLexer.Proofs.Number.Numeral
import ScriptLexer.Proofs.Number.Rounding
import ScriptLexer.Proofs.Text.Digits

set_option autoImplicit false

/-! # Numbers are read back from how they are written

The decimal by which a number is shown reads back as the number (`Shortest.nearest_decimal`). Set
out with a point or with an exponent, its digits still spell the same value
(`Decimal.spells_text`), so a number can be read off its text (`Number.ofText?_text`), and
different numbers are written differently (`Number.text_injective`). -/

namespace ScriptLexer

/-! ## The shortest decimal -/

namespace Shortest

/-- A point that is found on a grid reads back. -/
theorem nearest_of_onGrid {units grid point : Nat} (h : onGrid units grid = some point) :
    Decimal.nearest ⟨point, (grid : Int) - 1074⟩ = .finite units := by
  rw [← beq_iff_eq]
  show readsBack units grid point = true
  simp only [onGrid] at h
  split at h
  next hlow hhigh =>
    split at h
    · rw [← Option.some.inj h, hlow]
    split at h
    · rw [← Option.some.inj h, hhigh]
    · rw [← Option.some.inj h]
      rcases Nat.mod_two_eq_zero_or_one (exactly units / Nat.pow 10 grid) with heven | hodd
      · rw [heven, Nat.add_zero, hlow]
      · rw [hodd, hhigh]
  next hlow _ => rw [← Option.some.inj h, hlow]
  next _ hhigh => rw [← Option.some.inj h, hhigh]
  · simp at h

/-- The grid on which a number lies reads back as well. -/
theorem nearest_exactly {units : Nat} (h : (Magnitude.finite units).IsBinary64) :
    Decimal.nearest ⟨exactly units, -1074⟩ = .finite units := by
  cases h with
  | finite hspacing hlimit =>
    have hten : (10 : Nat) ^ 1074 = Magnitude.unitsPerOne * Nat.pow 5 1074 := by
      unfold Magnitude.unitsPerOne
      generalize 1074 = places
      exact Nat.mul_pow 2 5 places
    have hfive : 0 < Nat.pow 5 1074 := by
      generalize 1074 = places
      exact Nat.pow_pos (by decide)
    have hexponent : (-1074 : Int) = ((0 : Nat) : Int) - (1074 : Nat) := rfl
    rw [hexponent, Decimal.nearest_sub, Nat.pow_zero, Nat.mul_one, hten]
    unfold exactly
    exact Magnitude.nearest_exact hspacing hlimit hfive

/-- The decimal that shows a size reads back as the size. -/
theorem nearest_decimal {units : Nat} (h : (Magnitude.finite units).IsBinary64) :
    (decimal units).nearest = .finite units := by
  unfold decimal
  simp only
  generalize hfound : List.findSome? _ _ = found
  cases found with
  | none => exact nearest_exactly h
  | some shown =>
    obtain ⟨coarse, -, hcoarse⟩ := List.exists_of_findSome?_eq_some hfound
    obtain ⟨point, hpoint, rfl⟩ := Option.map_eq_some_iff.mp hcoarse
    exact nearest_of_onGrid hpoint

end Shortest

/-! ## Texts that spell a size -/

namespace Decimal

/-- The text is a numeral, perhaps with an exponent behind it, and spells the size. -/
inductive Spells (text : Text) (size : Magnitude) : Prop where
  | intro (numeral : Numeral) (exponent : Text) (power : Int) (hnumeral : numeral.WellFormed)
      (htext : text = numeral.lexeme ++ exponent)
      (hhead : ∀ c ∈ exponent.head?, c.isDigit = false ∧ c ≠ '.')
      (hexponent : exponentOfText? exponent = some power)
      (hsize : Decimal.nearest ⟨ofDigits (numeral.whole ++ numeral.fraction),
        -(numeral.fraction.length : Int) + power⟩ = size)

variable {text : Text} {size : Magnitude}

/-- A numeral with a point spells a size without an exponent. -/
theorem Spells.of_parts {whole fraction : Text} (hwhole : Numeral.IsDigits whole)
    (hfraction : Numeral.IsDigits fraction)
    (hsize : Decimal.nearest ⟨ofDigits (whole ++ fraction), -(fraction.length : Int)⟩ = size) :
    Spells (whole ++ '.' :: fraction) size := by
  have hlexeme : (⟨whole, fraction⟩ : Numeral).lexeme = whole ++ '.' :: fraction :=
    if_neg (by simpa using hfraction.1)
  refine Spells.intro ⟨whole, fraction⟩ [] 0 ⟨hwhole, hfraction.2⟩ ?_ (by simp) rfl ?_
  · rw [hlexeme, List.append_nil]
  · rw [Int.add_zero]
    exact hsize

theorem Spells.exists_cons (h : Spells text size) : ∃ c rest, text = c :: rest ∧ c.isDigit = true := by
  obtain ⟨numeral, exponent, -, hnumeral, rfl, -, -, -⟩ := h
  obtain ⟨c, rest, hlexeme, hc⟩ := hnumeral.isNumeral.exists_cons
  rw [hlexeme]
  exact ⟨c, rest ++ exponent, rfl, hc⟩

/-- A size is read off the texts that spell it. -/
theorem Spells.map_ofText? (h : Spells text size) :
    (Decimal.ofText? text).map Decimal.nearest = some size := by
  obtain ⟨numeral, exponent, power, hnumeral, rfl, hhead, hexponent, hsize⟩ := h
  rw [hnumeral.decimal_ofText?_append hhead, hexponent, Option.map_some, Option.map_some, hsize]

end Decimal

/-! ## Digits set out -/

namespace Layout

open Decimal (ofDigits Spells)

/-- The zero that fills up a place. -/
theorem isDigit_of_mem_zeros {count : Nat} {c : Char} (h : c ∈ List.replicate count '0') :
    c.isDigit = true := by
  rw [List.eq_of_mem_replicate h]
  rfl

theorem isDigits_zero : Numeral.IsDigits ['0'] :=
  ⟨List.cons_ne_nil _ _, fun c hc => @isDigit_of_mem_zeros 1 c hc⟩

theorem isDigits_append {a b : Text} (h : a ++ b ≠ []) (ha : ∀ c ∈ a, c.isDigit = true)
    (hb : ∀ c ∈ b, c.isDigit = true) : Numeral.IsDigits (a ++ b) :=
  ⟨h, fun c hc => (List.mem_append.mp hc).elim (ha c) (hb c)⟩

variable {digits : Text} (hdigits : Numeral.IsDigits digits)
include hdigits

/-- Nothing stands in front of the point, and perhaps zeros behind it. -/
theorem spells_behind_point (zeros : Nat) :
    Spells ('0' :: '.' :: (List.replicate zeros '0' ++ digits))
      (Decimal.nearest ⟨ofDigits digits, -(zeros + digits.length : Nat)⟩) := by
  have hfraction : Numeral.IsDigits (List.replicate zeros '0' ++ digits) :=
    isDigits_append (List.append_ne_nil_of_right_ne_nil _ hdigits.1)
      (fun c hc => isDigit_of_mem_zeros hc) hdigits.2
  have hvalue : ofDigits (['0'] ++ (List.replicate zeros '0' ++ digits)) = ofDigits digits := by
    rw [← List.append_assoc, ← List.replicate_one, List.replicate_append_replicate,
      Decimal.ofDigits_zeros_append]
  refine Spells.of_parts isDigits_zero hfraction ?_
  rw [hvalue, List.length_append, List.length_replicate]

/-- All digits stand in front of the point, and zeros behind them. -/
theorem spells_before_point (zeros : Nat) :
    Spells (digits ++ List.replicate zeros '0' ++ ['.', '0'])
      (Decimal.nearest ⟨ofDigits digits, zeros⟩) := by
  have hwhole : Numeral.IsDigits (digits ++ List.replicate zeros '0') :=
    isDigits_append (List.append_ne_nil_of_left_ne_nil hdigits.1 _) hdigits.2
      fun c hc => isDigit_of_mem_zeros hc
  have hvalue : ofDigits (digits ++ List.replicate zeros '0' ++ ['0']) =
      ofDigits digits * 10 ^ (zeros + 1) := by
    rw [List.append_assoc, ← List.replicate_succ', Decimal.ofDigits_append_zeros]
  have hplaces : -((['0'] : Text).length : Int) + (zeros + 1 : Nat) = zeros := by
    simp only [List.length_singleton]
    omega
  refine Spells.of_parts hwhole isDigits_zero ?_
  rw [hvalue, Decimal.nearest_shift, hplaces]

/-- The point stands between two digits. -/
theorem spells_around_point {count : Nat} (hcount : 0 < count) (hlt : count < digits.length) :
    Spells (digits.take count ++ '.' :: digits.drop count)
      (Decimal.nearest ⟨ofDigits digits, (count : Int) - digits.length⟩) := by
  have hfraction : Numeral.IsDigits (digits.drop count) := by
    refine ⟨?_, fun c hc => hdigits.2 c (List.mem_of_mem_drop hc)⟩
    rw [Ne, List.drop_eq_nil_iff]
    omega
  have hplaces : -((digits.drop count).length : Int) = (count : Int) - digits.length := by
    rw [List.length_drop]
    omega
  refine Spells.of_parts (hdigits.take hcount) hfraction ?_
  rw [List.take_append_drop, hplaces]

/-- With the point behind the first `point` of them, digits are worth as much as with the point
behind all of them and moved back by those that follow. -/
theorem spells_positional (point : Int) :
    Spells (positional digits point)
      (Decimal.nearest ⟨ofDigits digits, point - digits.length⟩) := by
  unfold positional
  split
  next count =>
    split
    next hcount =>
      have hbehind := spells_behind_point hdigits 0
      have hplaces : -((0 + digits.length : Nat) : Int) = Int.ofNat count - digits.length := by
        subst hcount
        simp
      rwa [hplaces] at hbehind
    next hcount =>
      by_cases hlt : count < digits.length
      · have hfraction : (digits.drop count).isEmpty = false := by
          rw [List.isEmpty_eq_false_iff, Ne, List.drop_eq_nil_iff]
          omega
        have hnone : count - digits.length = 0 := by omega
        simp only [hfraction, hnone, List.replicate_zero, List.append_nil]
        exact spells_around_point hdigits (Nat.pos_of_ne_zero hcount) hlt
      · have hle : digits.length ≤ count := Nat.le_of_not_lt hlt
        have hplaces : ((count - digits.length : Nat) : Int) = Int.ofNat count - digits.length :=
          Int.ofNat_sub hle
        have hbefore := spells_before_point hdigits (count - digits.length)
        rw [hplaces] at hbefore
        simp only [List.take_of_length_le hle, List.drop_of_length_le hle]
        exact hbefore
  next zeros =>
    have hbehind := spells_behind_point hdigits (zeros + 1)
    have hplaces : -((zeros + 1 + digits.length : Nat) : Int) =
        Int.negSucc zeros - digits.length := by
      omega
    rwa [hplaces] at hbehind

omit hdigits in
/-- An exponent is read back. -/
theorem exponentOfText?_exponent (power : Int) :
    Decimal.exponentOfText? (exponent power) = some power := by
  obtain ⟨written, hwritten⟩ : ∃ written, List.replicate
      (2 - (Text.ofNat power.natAbs).length) '0' ++ Text.ofNat power.natAbs = written := ⟨_, rfl⟩
  have hnumber : (if written.isEmpty || !written.all Char.isDigit then none
      else some (ofDigits written)) = some power.natAbs := by
    obtain ⟨c, rest, hspelled, -⟩ := Text.exists_ofNat_eq_cons power.natAbs
    have hne : written.isEmpty = false := by
      simp [← hwritten, hspelled]
    have hall : written.all Char.isDigit = true := by
      rw [List.all_eq_true, ← hwritten]
      intro d hd
      exact (List.mem_append.mp hd).elim isDigit_of_mem_zeros Text.isDigit_of_mem_ofNat
    have hvalue : ofDigits written = power.natAbs := by
      rw [← hwritten, Decimal.ofDigits_zeros_append, Decimal.ofDigits_ofNat]
    rw [hne, hall, hvalue]
    rfl
  have hexponent : exponent power = 'e' :: (if power < 0 then '-' else '+') :: written := by
    rw [← hwritten]
    rfl
  rw [hexponent]
  by_cases hsign : power < 0
  · rw [if_pos hsign, Decimal.exponentOfText?, if_pos (Or.inl rfl)]
    simp only [hnumber]
    show some (-(power.natAbs : Int)) = some power
    congr 1
    omega
  · rw [if_neg hsign, Decimal.exponentOfText?, if_pos (Or.inl rfl)]
    simp only [hnumber]
    show some (power.natAbs : Int) = some power
    congr 1
    omega

/-- With the point behind the first of them, digits and an exponent are worth as much as with the
point behind all of them. -/
theorem spells_scientific (power : Int) :
    Spells (scientific digits power)
      (Decimal.nearest ⟨ofDigits digits, power + 1 - digits.length⟩) := by
  have hpos : 0 < digits.length := List.length_pos_iff.mpr hdigits.1
  have hnumeral : (⟨digits.take 1, digits.drop 1⟩ : Numeral).WellFormed :=
    ⟨hdigits.take Nat.one_pos, fun c hc => hdigits.2 c (List.mem_of_mem_drop hc)⟩
  have hplaces : -((digits.drop 1).length : Int) + power = power + 1 - digits.length := by
    rw [List.length_drop]
    omega
  refine Spells.intro _ (exponent power) power hnumeral ?_ ?_ (exponentOfText?_exponent power) ?_
  · unfold scientific Numeral.lexeme
    simp only
    split
    · rw [List.append_nil]
    · rfl
  · intro c hc
    obtain rfl : 'e' = c := Option.some.inj hc
    decide
  · simp only [List.take_append_drop, hplaces]

end Layout

/-! ## Decimals and numbers -/

namespace Decimal

/-- The digits of a decimal are the significant ones and zeros behind them. -/
theorem exists_ofNat_coefficient (decimal : Decimal) :
    ∃ zeros, Text.ofNat decimal.coefficient =
      decimal.significantDigits ++ List.replicate zeros '0' := by
  generalize hdigits : Text.ofNat decimal.coefficient = digits
  let zeros := digits.reverse.takeWhile (· == '0')
  have hzeros : zeros = List.replicate zeros.length '0' := by
    rw [List.eq_replicate_iff]
    exact ⟨rfl, fun c hc => by simpa using List.mem_takeWhile_imp hc⟩
  have hsignificant : decimal.significantDigits =
      (digits.reverse.dropWhile (· == '0')).reverse := by
    unfold significantDigits
    rw [hdigits, Text.trimEnd]
  refine ⟨zeros.length, ?_⟩
  calc digits
      = (zeros ++ digits.reverse.dropWhile (· == '0')).reverse := by
        rw [List.takeWhile_append_dropWhile, List.reverse_reverse]
    _ = decimal.significantDigits ++ zeros.reverse := by
        rw [List.reverse_append, hsignificant]
    _ = decimal.significantDigits ++ List.replicate zeros.length '0' := by
        rw [← List.reverse_replicate, ← hzeros]

/-- A decimal is written as a text that spells the size nearest to it. -/
theorem spells_text (decimal : Decimal) : Spells decimal.text decimal.nearest := by
  obtain ⟨zeros, hdigits⟩ := decimal.exists_ofNat_coefficient
  have hcoefficient : decimal.coefficient = ofDigits decimal.significantDigits * 10 ^ zeros := by
    rw [← ofDigits_append_zeros, ← hdigits, ofDigits_ofNat]
  -- the digits, with the point behind all of them, are worth the decimal
  have hnearest : Decimal.nearest ⟨ofDigits decimal.significantDigits,
      decimal.leadingPower + 1 - decimal.significantDigits.length⟩ = decimal.nearest := by
    have hpower : decimal.leadingPower + 1 - decimal.significantDigits.length =
        decimal.exponent + zeros := by
      unfold leadingPower
      rw [hdigits, List.length_append, List.length_replicate]
      omega
    calc Decimal.nearest ⟨ofDigits decimal.significantDigits,
          decimal.leadingPower + 1 - decimal.significantDigits.length⟩
        = Decimal.nearest ⟨ofDigits decimal.significantDigits, decimal.exponent + zeros⟩ := by
          rw [hpower]
      _ = Decimal.nearest ⟨ofDigits decimal.significantDigits * 10 ^ zeros, decimal.exponent⟩ :=
          (nearest_shift _ _ _).symm
      _ = decimal.nearest := by rw [← hcoefficient]
  unfold text
  simp only [List.isEmpty_iff]
  split
  next hnone =>
    rw [hnone, show ofDigits [] = 0 from rfl, Decimal.nearest_zero] at hnearest
    exact Spells.of_parts Layout.isDigits_zero Layout.isDigits_zero
      ((Decimal.nearest_zero _).trans hnearest)
  next hne =>
    have hsignificant : Numeral.IsDigits decimal.significantDigits := by
      refine ⟨hne, fun c hc => Text.isDigit_of_mem_ofNat (n := decimal.coefficient) ?_⟩
      rw [hdigits]
      exact List.mem_append_left _ hc
    rw [← hnearest]
    split
    · exact Layout.spells_positional hsignificant _
    · exact Layout.spells_scientific hsignificant _

end Decimal

/-- A size of 53 bits is read back from how it is written. -/
theorem Magnitude.ofText?_text {magnitude : Magnitude} (h : magnitude.IsBinary64) :
    Magnitude.ofText? magnitude.text = some magnitude := by
  cases magnitude with
  | infinite => rfl
  | finite units =>
    have hspells := (Shortest.decimal units).spells_text
    rw [Shortest.nearest_decimal h] at hspells
    obtain ⟨c, rest, htext, hc⟩ := hspells.exists_cons
    have hword : infinityWords.contains ((finite units).text.map Char.toLower) = false := by
      rw [show (finite units).text = c :: rest from htext]
      exact Numeral.not_infinityWord hc rest
    rw [Magnitude.ofText?, if_neg (by rw [hword]; decide)]
    exact hspells.map_ofText?

/-- The text of a size has no sign in front. -/
theorem Magnitude.exists_text_eq_cons (magnitude : Magnitude) :
    ∃ c rest, magnitude.text = c :: rest ∧ c ≠ '-' ∧ c ≠ '+' := by
  cases magnitude with
  | infinite => exact ⟨'i', _, rfl, by decide, by decide⟩
  | finite units =>
    obtain ⟨c, rest, htext, hc⟩ := (Shortest.decimal units).spells_text.exists_cons
    refine ⟨c, rest, htext, ?_, ?_⟩
    · rintro rfl
      exact absurd hc (by decide)
    · rintro rfl
      exact absurd hc (by decide)

/-- A number of 53 bits is read back from how it is written. -/
theorem Number.ofText?_text {number : Number} (h : number.magnitude.IsBinary64) :
    Number.ofText? number.text = some number := by
  have hmagnitude := Magnitude.ofText?_text h
  obtain ⟨negative, magnitude⟩ := number
  cases negative with
  | true =>
    show (Magnitude.ofText? magnitude.text).map (Number.mk true) = _
    rw [hmagnitude, Option.map_some]
  | false =>
    show Number.ofText? magnitude.text = _
    obtain ⟨c, rest, htext, hminus, hplus⟩ := magnitude.exists_text_eq_cons
    rw [htext] at hmagnitude ⊢
    rw [Number.ofText?, hmagnitude, Option.map_some]
    · rintro text ⟨⟩
      exact hminus rfl
    · rintro text ⟨⟩
      exact hplus rfl

/-- Different numbers of 53 bits are written differently. -/
theorem Number.text_injective {a b : Number} (ha : a.magnitude.IsBinary64)
    (hb : b.magnitude.IsBinary64) (h : a.text = b.text) : a = b := by
  have hread := Number.ofText?_text ha
  rw [h, Number.ofText?_text hb] at hread
  exact (Option.some.inj hread).symm

end ScriptLexer
