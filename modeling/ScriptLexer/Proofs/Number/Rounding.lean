import ScriptLexer.Number.Decimal
import Mathlib.Algebra.Order.Group.Nat
import Mathlib.Tactic.Ring

set_option autoImplicit false

/-! # Rounding

The size nearest to a fraction depends on the value of the fraction only
(`Magnitude.nearest_mul_right`), and so does the one nearest to a decimal (`Decimal.nearest_shift`).
The sizes that are nearest to something are those that 53 bits hold
(`Magnitude.isBinary64_nearest`), and each of them is nearest to itself
(`Magnitude.nearest_exact`). -/

namespace ScriptLexer

/-! ## Rounding to a whole number -/

section

variable (n d : Nat)

theorem roundHalfEven_le : roundHalfEven n d ≤ n / d + 1 := by
  unfold roundHalfEven
  simp only
  split
  · omega
  split
  · omega
  · omega

theorem roundHalfEven_mul_right {k : Nat} (hk : 0 < k) :
    roundHalfEven (n * k) (d * k) = roundHalfEven n d := by
  have hlt : 2 * (n % d * k) < d * k ↔ 2 * (n % d) < d := by
    rw [← Nat.mul_assoc]
    exact Nat.mul_lt_mul_right hk
  have hgt : d * k < 2 * (n % d * k) ↔ d < 2 * (n % d) := by
    rw [← Nat.mul_assoc]
    exact Nat.mul_lt_mul_right hk
  unfold roundHalfEven
  simp only [Nat.mul_div_mul_right n d hk, Nat.mul_mod_mul_right, hlt, hgt]

variable {d}

/-- A whole number is rounded to itself. -/
theorem roundHalfEven_mul_self (hd : 0 < d) : roundHalfEven (n * d) d = n := by
  unfold roundHalfEven
  simp only [Nat.mul_div_cancel n hd, Nat.mul_mod_left]
  exact if_pos hd

end

/-! ## Rounding to 53 bits -/

namespace Magnitude

theorem nearest_mul_right (n d : Nat) {k : Nat} (hk : 0 < k) :
    nearest (n * k) (d * k) = nearest n d := by
  have hscaled : n * k * unitsPerOne = n * unitsPerOne * k := Nat.mul_right_comm _ _ _
  have hstep : ∀ step, d * k * step = d * step * k := fun step => Nat.mul_right_comm _ _ _
  unfold nearest
  simp only [hscaled, hstep, Nat.mul_div_mul_right _ _ hk, roundHalfEven_mul_right _ _ hk]

theorem unitsPerOne_pos : 0 < unitsPerOne := by
  unfold unitsPerOne
  generalize 1074 = places
  exact Nat.two_pow_pos places

theorem unitLimit_pos : 0 < unitLimit := by
  unfold unitLimit
  generalize 2098 = places
  exact Nat.two_pow_pos places

theorem spacing_pos (units : Nat) : 0 < spacing units := Nat.two_pow_pos _

theorem nearest_zero {d : Nat} (hd : 0 < d) : nearest 0 d = .finite 0 := by
  have hround : ∀ e, 0 < e → roundHalfEven 0 e = 0 := by
    intro e he
    have hzero := roundHalfEven_mul_self 0 he
    rwa [Nat.zero_mul] at hzero
  unfold nearest
  simp only [Nat.zero_mul, hround _ (Nat.mul_pos hd (spacing_pos _))]
  rw [if_pos unitLimit_pos]

/-- A size that 53 bits hold: it is a multiple of the distance to its neighbours, or infinite. -/
inductive IsBinary64 : Magnitude → Prop where
  | finite {units : Nat} (hspacing : spacing units ∣ units) (hlimit : units < unitLimit) :
      IsBinary64 (.finite units)
  | infinite : IsBinary64 .infinite

/-- At most 53 bits, moved by some places, are a multiple of the distance to the neighbours. -/
theorem spacing_dvd {bits : Nat} (hbits : bits ≤ 2 ^ 53) (places : Nat) :
    spacing (bits * 2 ^ places) ∣ bits * 2 ^ places := by
  rcases Nat.eq_zero_or_pos bits with rfl | hpos
  · rw [Nat.zero_mul]
    exact Nat.dvd_zero _
  rcases Nat.eq_or_lt_of_le hbits with rfl | hlt
  · -- one more bit than there is room for, but the last of them is zero
    rw [← Nat.pow_add]
    unfold spacing
    rw [Nat.log2_two_pow]
    exact Nat.pow_dvd_pow 2 (by omega)
  · have hne : bits * 2 ^ places ≠ 0 :=
      Nat.ne_of_gt (Nat.mul_pos hpos (Nat.pow_pos (by decide)))
    have hwidth : (bits * 2 ^ places).log2 < 53 + places := by
      rw [Nat.log2_lt hne, Nat.pow_add]
      exact Nat.mul_lt_mul_of_pos_right hlt (Nat.pow_pos (by decide))
    have hplaces : spacing (bits * 2 ^ places) ∣ 2 ^ places :=
      Nat.pow_dvd_pow 2 (by omega)
    exact Nat.dvd_trans hplaces (Nat.dvd_mul_left _ _)

/-- What is nearest to a fraction is held by 53 bits. -/
theorem isBinary64_nearest (n d : Nat) : (nearest n d).IsBinary64 := by
  unfold nearest
  simp only
  generalize hscaled : n * unitsPerOne = scaled
  split
  next hlimit =>
    refine IsBinary64.finite ?_ hlimit
    -- the quotient has at most 53 bits in front of the places that are rounded away
    let places := (scaled / d).log2 - 52
    have hquotient : scaled / d < 2 ^ (53 + places) :=
      Nat.lt_of_lt_of_le Nat.lt_log2_self (Nat.pow_le_pow_right (by decide) (by omega))
    have hdiv : scaled / (d * 2 ^ places) < 2 ^ 53 := by
      rw [← Nat.div_div_eq_div_mul, Nat.div_lt_iff_lt_mul (Nat.pow_pos (by decide)),
        ← Nat.pow_add]
      exact hquotient
    have hbits := (roundHalfEven_le scaled (d * 2 ^ places)).trans hdiv
    exact spacing_dvd hbits places
  · exact IsBinary64.infinite

/-- A finite size is nearest to itself. -/
theorem nearest_exact {units : Nat} (hspacing : spacing units ∣ units) (hlimit : units < unitLimit)
    {k : Nat} (hk : 0 < k) : nearest (units * k) (unitsPerOne * k) = .finite units := by
  obtain ⟨steps, hsteps⟩ := hspacing
  have hone := Nat.mul_pos unitsPerOne_pos hk
  have hscaled : units * k * unitsPerOne = units * (unitsPerOne * k) := by ring
  have hround : roundHalfEven (units * (unitsPerOne * k)) (unitsPerOne * k * spacing units) =
      steps := by
    have hwhole : units * (unitsPerOne * k) = steps * (unitsPerOne * k * spacing units) := by
      calc units * (unitsPerOne * k)
          = spacing units * steps * (unitsPerOne * k) := by rw [← hsteps]
        _ = steps * (unitsPerOne * k * spacing units) := by ring
    rw [hwhole, roundHalfEven_mul_self _ (Nat.mul_pos hone (spacing_pos units))]
  unfold nearest
  simp only [hscaled, Nat.mul_div_cancel units hone, hround]
  rw [Nat.mul_comm steps, ← hsteps, if_pos hlimit]

end Magnitude

/-! ## Rounding decimals -/

namespace Decimal

open Magnitude (nearest_mul_right)

/-- The size nearest to a decimal, the power of ten being a quotient. -/
theorem nearest_sub (coefficient a b : Nat) :
    Decimal.nearest ⟨coefficient, (a : Int) - b⟩ =
      Magnitude.nearest (coefficient * 10 ^ a) (10 ^ b) := by
  have hten : ∀ k, 0 < 10 ^ k := fun k => Nat.pow_pos (by decide)
  rcases Nat.lt_or_ge a b with hlt | hle
  · obtain ⟨places, rfl⟩ := Nat.exists_eq_add_of_lt hlt
    have hexponent : (a : Int) - (a + places + 1 : Nat) = Int.negSucc places := by
      omega
    have hden : 10 ^ (places + 1) * 10 ^ a = 10 ^ (a + places + 1) := by
      ring
    rw [hexponent]
    show Magnitude.nearest coefficient (10 ^ (places + 1)) = _
    rw [← nearest_mul_right _ _ (hten a), hden]
  · obtain ⟨zeros, rfl⟩ := Nat.exists_eq_add_of_le hle
    have hexponent : ((b + zeros : Nat) : Int) - b = Int.ofNat zeros := by
      simp
    have hnum : coefficient * 10 ^ zeros * 10 ^ b = coefficient * 10 ^ (b + zeros) := by
      ring
    rw [hexponent]
    show Magnitude.nearest (coefficient * 10 ^ zeros) 1 = _
    rw [← nearest_mul_right _ _ (hten b), hnum, Nat.one_mul]

/-- Zeros behind the digits of a decimal count as places. -/
theorem nearest_shift (coefficient zeros : Nat) (exponent : Int) :
    Decimal.nearest ⟨coefficient * 10 ^ zeros, exponent⟩ =
      Decimal.nearest ⟨coefficient, exponent + zeros⟩ := by
  obtain ⟨a, b, rfl⟩ : ∃ a b : Nat, exponent = a - b :=
    ⟨exponent.toNat, (-exponent).toNat, by omega⟩
  have hexponent : (a : Int) - b + zeros = ((a + zeros : Nat) : Int) - b := by
    omega
  rw [hexponent, nearest_sub, nearest_sub, Nat.mul_assoc, ← Nat.pow_add, Nat.add_comm zeros]

theorem nearest_zero (exponent : Int) : Decimal.nearest ⟨0, exponent⟩ = .finite 0 := by
  obtain ⟨a, b, rfl⟩ : ∃ a b : Nat, exponent = a - b :=
    ⟨exponent.toNat, (-exponent).toNat, by omega⟩
  rw [nearest_sub, Nat.zero_mul, Magnitude.nearest_zero (Nat.pow_pos (by decide))]

theorem isBinary64_nearest (decimal : Decimal) : decimal.nearest.IsBinary64 := by
  unfold nearest
  split
  · exact Magnitude.isBinary64_nearest _ _
  · exact Magnitude.isBinary64_nearest _ _

end Decimal

end ScriptLexer
