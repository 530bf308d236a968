import ScriptLexer.Proofs.Number.Nearest
import ScriptLexer.Proofs.Number.Rounding
import Mathlib.Algebra.Order.Field.Basic
import Mathlib.Data.Nat.Cast.Order.Field
import Mathlib.Tactic.FieldSimp

set_option autoImplicit false

/-! # Rounding is correct

The size that is computed for a fraction is the one that the fraction is rounded to
(`Magnitude.rounds_nearest`), and so it is for decimals (`Decimal.rounds_iff`). A fraction is
counted in units of `2 ^ (-1074)`, and a step of `2 ^ places` of them is chosen that leaves 53 bits
for it (`Rounded`). The nearest multiple of this step is the nearest finite number: the finite
numbers that are no multiples of the step are below `2 ^ (52 + places)`, and so farther away. -/

namespace ScriptLexer

/-! ## Rounding to a whole number -/

section

variable (n : Nat) {d : Nat} (hd : 0 < d)
include hd

theorem div_eq_quotient_add : (n : Rat) / d = (n / d : Nat) + ((n % d : Nat) : Rat) / d := by
  have hne : (d : Rat) ≠ 0 := Nat.cast_ne_zero.mpr hd.ne'
  rw [div_eq_iff hne, add_mul, div_mul_cancel₀ _ hne]
  exact_mod_cast (Nat.div_add_mod' n d).symm

/-- The rounded quotient is at most one half away, and even if it is as much. -/
theorem abs_sub_roundHalfEven : |(n : Rat) / d - roundHalfEven n d| ≤ 1 / 2 ∧
    (|(n : Rat) / d - roundHalfEven n d| = 1 / 2 → Even (roundHalfEven n d)) := by
  have hpos : (0 : Rat) < d := Nat.cast_pos.mpr hd
  have hless : 2 * (n % d) < d ↔ ((n % d : Nat) : Rat) / d < 1 / 2 := by
    rw [div_lt_div_iff₀ hpos two_pos, one_mul, mul_comm]
    exact_mod_cast Iff.rfl
  have hmore : d < 2 * (n % d) ↔ 1 / 2 < ((n % d : Nat) : Rat) / d := by
    rw [div_lt_div_iff₀ two_pos hpos, one_mul, mul_comm]
    exact_mod_cast Iff.rfl
  have hge : 0 ≤ ((n % d : Nat) : Rat) / d := by positivity
  have hlt : ((n % d : Nat) : Rat) / d < 1 :=
    (div_lt_one hpos).mpr (Nat.cast_lt.mpr (Nat.mod_lt n hd))
  rw [div_eq_quotient_add n hd]
  unfold roundHalfEven
  simp only [hless, hmore]
  generalize ((n % d : Nat) : Rat) / d = rest at *
  split
  next hbelow =>
    rw [add_sub_cancel_left, abs_of_nonneg hge]
    exact ⟨hbelow.le, fun heq => absurd heq hbelow.ne⟩
  split
  next habove =>
    rw [Nat.cast_add_one, add_sub_add_left_eq_sub, abs_of_nonpos (by linarith)]
    exact ⟨by linarith, fun heq => absurd habove (by linarith)⟩
  next hbelow habove =>
    -- exactly between two whole numbers
    have heq : rest = 1 / 2 := by linarith
    have hparity : Even (n / d + n / d % 2) := by
      rw [Nat.even_iff]
      omega
    refine ⟨?_, fun _ => hparity⟩
    rw [heq, Nat.cast_add, add_sub_add_left_eq_sub]
    rcases Nat.mod_two_eq_zero_or_one (n / d) with hzero | hone
    · rw [hzero, Nat.cast_zero, sub_zero, abs_of_pos one_half_pos]
    · rw [hone, Nat.cast_one, abs_of_nonpos (by norm_num)]
      norm_num

end

/-! ## Rounding to a step -/

/-- The multiple of a step of `2 ^ places` to which a fraction is rounded: the nearest one, and the
even one of two. The step leaves 53 bits for the fraction, or it is one. -/
structure Rounded (x : Rat) (places bits : Nat) : Prop where
  below : x < 2 ^ (53 + places)
  above : 0 < places → 2 ^ (52 + places) ≤ x
  near : |x - bits * 2 ^ places| ≤ 2 ^ places / 2
  even : |x - bits * 2 ^ places| = 2 ^ places / 2 → Even bits

namespace Rounded

variable {x : Rat} {places bits : Nat} (h : Rounded x places bits)
include h

theorem bits_le : bits ≤ 2 ^ 53 := by
  have hstep : (0 : Rat) < 2 ^ places := pow_pos two_pos _
  have hnear := (abs_le.mp h.near).1
  have hbelow := h.below
  rw [pow_add] at hbelow
  have hbits : (bits : Rat) * 2 ^ places < (2 ^ 53 + 1) * 2 ^ places := by
    linarith
  have hlt : (bits : Rat) < 2 ^ 53 + 1 := lt_of_mul_lt_mul_right hbits hstep.le
  exact Nat.le_of_lt_succ (by exact_mod_cast hlt)

theorem le_bits (hplaces : 0 < places) : 2 ^ 52 ≤ bits := by
  have hstep : (0 : Rat) < 2 ^ places := pow_pos two_pos _
  have hnear := (abs_le.mp h.near).2
  have habove := h.above hplaces
  rw [pow_add] at habove
  have hbits : ((2 : Rat) ^ 52 - 1) * 2 ^ places < bits * 2 ^ places := by
    linarith
  have hlt : (2 : Rat) ^ 52 - 1 < bits := lt_of_mul_lt_mul_right hbits hstep.le
  exact Nat.le_of_lt_succ (by exact_mod_cast sub_lt_iff_lt_add.mp hlt)

/-- Another multiple of the step is at least half a step away. -/
theorem le_abs_sub_multiple {multiple : Int} (hne : multiple ≠ bits) :
    2 ^ places / 2 ≤ |x - multiple * 2 ^ places| := by
  have hstep : (0 : Rat) < 2 ^ places := pow_pos two_pos _
  -- the two multiples are a step apart
  have hapart : (2 : Rat) ^ places ≤ |(bits : Rat) * 2 ^ places - multiple * 2 ^ places| := by
    have hone : (1 : Rat) ≤ |(bits : Rat) - multiple| := by
      exact_mod_cast Int.one_le_abs (sub_ne_zero.mpr hne.symm)
    rw [← sub_mul, abs_mul, abs_of_pos hstep]
    exact le_mul_of_one_le_left hstep.le hone
  have htriangle := abs_sub_le ((bits : Rat) * 2 ^ places) x (multiple * 2 ^ places)
  rw [abs_sub_comm _ x] at htriangle
  have hnear := h.near
  linarith

/-- A number below all that have 53 bits for the step is farther away. -/
theorem lt_abs_sub_of_lt (hplaces : 0 < places) {y : Rat} (hy : y < 2 ^ (52 + places)) :
    |x - bits * 2 ^ places| < |x - y| := by
  have habove := h.above hplaces
  have hmiddle : |x - bits * 2 ^ places| ≤ |x - 2 ^ (52 + places)| := by
    by_cases heq : ((2 ^ 52 : Nat) : Int) = bits
    · rw [pow_add, ← Int.cast_natCast, ← heq]
      push_cast
      rfl
    · have hle := h.le_abs_sub_multiple heq
      rw [pow_add]
      push_cast at hle
      exact h.near.trans hle
  rw [abs_of_nonneg (sub_nonneg.mpr habove)] at hmiddle
  rw [abs_of_pos (sub_pos.mpr (hy.trans_le habove))]
  linarith

end Rounded

/-! ## The nearest finite number -/

namespace Double

/-- A finite number is a multiple of a step, or below those that have 53 bits for it. -/
theorem multiple_or_lt (e : Double) (places : Nat) :
    (∃ multiple : Int, e.units = multiple * 2 ^ places) ∨
      0 < places ∧ e.units < 2 ^ (52 + places) := by
  rcases Nat.lt_or_ge e.places places with hlt | hge
  · refine Or.inr ⟨by omega, ?_⟩
    have hstep : (0 : Int) < 2 ^ e.places := by positivity
    calc e.units < 2 ^ 53 * 2 ^ e.places :=
          mul_lt_mul_of_pos_right ((le_abs_self _).trans_lt e.fits) hstep
      _ = 2 ^ (53 + e.places) := (pow_add _ _ _).symm
      _ ≤ 2 ^ (52 + places) := pow_le_pow_right₀ (by decide) (by omega)
  · obtain ⟨more, hmore⟩ := Nat.exists_eq_add_of_le hge
    refine Or.inl ⟨e.significand * 2 ^ more, ?_⟩
    rw [units, hmore]
    ring

theorem abs_sub_value (q : Rat) (d : Double) :
    |q - d.value| = |q * 2 ^ 1074 - d.units| / 2 ^ 1074 := by
  unfold value
  generalize 1074 = unit
  have hone : (0 : Rat) < 2 ^ unit := by positivity
  rw [← abs_of_pos hone, ← abs_div, abs_of_pos hone, sub_div, mul_div_cancel_right₀ _ hone.ne']

end Double

namespace Rounded

section

variable {x : Rat} {places bits : Nat} (h : Rounded x places bits)
include h

/-- The last place of a finite multiple is at most that of the largest numbers. -/
theorem places_le {last : Nat} (hlimit : bits * 2 ^ places < 2 ^ (53 + last)) : places ≤ last := by
  rcases Nat.eq_zero_or_pos places with rfl | hpos
  · exact Nat.zero_le last
  have hpower : 2 ^ (52 + places) < 2 ^ (53 + last) :=
    calc 2 ^ (52 + places) = 2 ^ 52 * 2 ^ places := Nat.pow_add _ _ _
      _ ≤ bits * 2 ^ places := Nat.mul_le_mul_right _ (h.le_bits hpos)
      _ < 2 ^ (53 + last) := hlimit
  have hplaces := (Nat.pow_lt_pow_iff_right (by decide)).mp hpower
  omega

/-- The multiple is a finite number, unless it is too large. -/
theorem exists_double (hlimit : bits * 2 ^ places < 2 ^ (53 + 2045)) :
    ∃ d : Double, d.units = bits * 2 ^ places ∧ (Even bits → Even d.significand) := by
  rcases Nat.lt_or_eq_of_le h.bits_le with hlt | rfl
  · have hnormal : 2 ^ 52 ≤ |(bits : Int)| ∨ places = 0 := by
      rw [Nat.abs_cast]
      rcases Nat.eq_zero_or_pos places with hzero | hpos
      · exact Or.inr hzero
      · exact Or.inl (by exact_mod_cast h.le_bits hpos)
    refine ⟨⟨bits, places, ?_, h.places_le hlimit, hnormal⟩, rfl, fun heven => ?_⟩
    · rw [Nat.abs_cast]
      exact_mod_cast hlt
    · exact (Int.even_coe_nat bits).mpr heven
  · -- the last of the bits is zero, so one place more takes it in
    have hplaces : places + 1 ≤ 2045 := by
      rw [← Nat.pow_add] at hlimit
      have hlt := (Nat.pow_lt_pow_iff_right (by decide)).mp hlimit
      omega
    refine ⟨⟨2 ^ 52, places + 1, by decide, hplaces, Or.inl (by decide)⟩, ?_, fun _ => ?_⟩
    · rw [Double.units]
      push_cast
      ring
    · exact even_two.pow_of_ne_zero (by decide)

end

/-- The multiple is the nearest finite number. -/
theorem exists_isNearest {q : Rat} {places bits : Nat} (h : Rounded (q * 2 ^ 1074) places bits)
    (hlimit : bits * 2 ^ places < 2 ^ (53 + 2045)) :
    ∃ d : Double, IsNearest q d ∧ d.units = bits * 2 ^ places := by
  obtain ⟨d, hunits, heven⟩ := h.exists_double hlimit
  have hcast : (d.units : Rat) = bits * 2 ^ places := by
    rw [hunits]
    push_cast
    rfl
  -- other numbers are half a step away if they are multiples of it, and otherwise farther
  have hothers : ∀ e : Double, e.value ≠ d.value → 2 ^ places / 2 ≤ |q * 2 ^ 1074 - e.units| ∨
      |q * 2 ^ 1074 - d.units| < |q * 2 ^ 1074 - e.units| := by
    intro e hne
    rcases e.multiple_or_lt places with ⟨multiple, hmultiple⟩ | ⟨hpos, hlt⟩
    · left
      rw [hmultiple]
      push_cast
      refine h.le_abs_sub_multiple fun heq => hne ?_
      rw [Double.value, Double.value, hunits, hmultiple, heq]
    · right
      rw [hcast]
      exact h.lt_abs_sub_of_lt hpos (by exact_mod_cast hlt)
  have hone : (0 : Rat) < 2 ^ 1074 := pow_pos two_pos _
  have hnear := h.near
  rw [← hcast] at hnear
  refine ⟨d, ⟨fun e => ?_, fun e hne heq => heven (h.even ?_)⟩, hunits⟩
  · by_cases hne : e.value = d.value
    · rw [hne]
    · rw [Double.abs_sub_value, Double.abs_sub_value, div_le_div_iff_of_pos_right hone]
      exact (hothers e hne).elim hnear.trans le_of_lt
  · rw [Double.abs_sub_value, Double.abs_sub_value, div_left_inj' hone.ne'] at heq
    rcases hothers e hne with hhalf | hfarther
    · rw [heq] at hhalf
      rw [← hcast]
      exact le_antisymm hnear hhalf
    · exact absurd heq hfarther.ne'

section

variable {x : Rat} {places bits last : Nat} (h : Rounded x places bits)
include h

/-- What is rounded to a multiple in range is below halfway beyond the largest one: that one is odd,
so halfway itself is rounded up. -/
theorem lt_halfway_of_lt (hlimit : bits * 2 ^ places < 2 ^ (53 + last)) :
    x < (2 ^ 53 - 1 / 2) * 2 ^ last := by
  have hstep : ∀ k : Nat, (0 : Rat) < 2 ^ k := pow_pos two_pos
  by_contra hge
  rw [not_lt] at hge
  have hle : last ≤ places := by
    have hpower : (2 : Rat) ^ (52 + last) < 2 ^ (53 + places) :=
      calc (2 : Rat) ^ (52 + last) = 2 ^ 52 * 2 ^ last := pow_add _ _ _
        _ ≤ (2 ^ 53 - 1 / 2) * 2 ^ last :=
          mul_le_mul_of_nonneg_right (by norm_num) (hstep last).le
        _ ≤ x := hge
        _ < 2 ^ (53 + places) := h.below
    have hplaces := (pow_lt_pow_iff_right₀ one_lt_two).mp hpower
    omega
  obtain rfl : places = last := Nat.le_antisymm (h.places_le hlimit) hle
  have hlt : bits < 2 ^ 53 := by
    rw [Nat.pow_add] at hlimit
    exact lt_of_mul_lt_mul_right hlimit (Nat.zero_le _)
  have hbits : ((2 : Rat) ^ 53 - 1) * 2 ^ places ≤ bits * 2 ^ places := by
    linarith [(abs_le.mp h.near).2]
  have hge' : (2 : Rat) ^ 53 - 1 ≤ bits := le_of_mul_le_mul_right hbits (hstep places)
  have hlast : 2 ^ 53 ≤ bits + 1 := by exact_mod_cast sub_le_iff_le_add.mp hge'
  obtain rfl : bits = 2 ^ 53 - 1 := by omega
  refine absurd (h.even (le_antisymm h.near ?_)) (by decide)
  refine le_trans ?_ (le_abs_self _)
  push_cast
  linarith

/-- What is below halfway beyond the largest multiple is rounded to one in range. -/
theorem lt_of_lt_halfway (hlt : x < (2 ^ 53 - 1 / 2) * 2 ^ last) :
    bits * 2 ^ places < 2 ^ (53 + last) := by
  have hstep : (0 : Rat) < 2 ^ last := pow_pos two_pos _
  by_contra hge
  rw [Nat.not_lt] at hge
  have hpower : 2 ^ (53 + last) ≤ 2 ^ (53 + places) := by
    rw [Nat.pow_add 2 53 places]
    exact hge.trans (Nat.mul_le_mul_right _ h.bits_le)
  have hle := (Nat.pow_le_pow_iff_right (by decide)).mp hpower
  rcases Nat.lt_or_eq_of_le hle with hmore | heq
  · have habove : (2 : Rat) ^ (53 + last) ≤ x :=
      (pow_le_pow_right₀ one_le_two (by omega)).trans (h.above (by omega))
    rw [pow_add] at habove
    linarith
  · obtain rfl : last = places := by omega
    have hbits : 2 ^ 53 ≤ bits := by
      rw [Nat.pow_add] at hge
      exact Nat.le_of_mul_le_mul_right hge (Nat.two_pow_pos _)
    have hbits' : (2 : Rat) ^ 53 * 2 ^ last ≤ bits * 2 ^ last :=
      mul_le_mul_of_nonneg_right (by exact_mod_cast hbits) hstep.le
    linarith [(abs_le.mp h.near).1]

end

end Rounded

/-- Halfway between the largest finite number and `2 ^ 1024`, in units of `2 ^ (-1074)`. -/
theorem lt_halfway_iff (q : Rat) :
    q < 2 ^ 1024 - 2 ^ 970 ↔ q * 2 ^ 1074 < (2 ^ 53 - 1 / 2) * 2 ^ 2045 := by
  have hscale : ∀ a b : Nat,
      ((2 : Rat) ^ (54 + a) - 2 ^ a) * 2 ^ b = (2 ^ 53 - 1 / 2) * 2 ^ (a + b + 1) := by
    intro a b
    ring
  have hone : (0 : Rat) < 2 ^ 1074 := pow_pos two_pos _
  have hlimit := hscale 970 1074
  rw [← hlimit, mul_lt_mul_iff_of_pos_right hone]

/-! ## The computed size -/

/-- A fraction is rounded to the step that the length of its whole part gives. -/
theorem rounded_roundHalfEven (n : Nat) {d : Nat} (hd : 0 < d) :
    Rounded (n / d) ((n / d).log2 - 52)
      (roundHalfEven n (d * 2 ^ ((n / d).log2 - 52))) := by
  have hwhole : ((n / d : Nat) : Rat) ≤ n / d := Nat.cast_div_le
  have hbehind : (n : Rat) / d < ((n / d + 1 : Nat) : Rat) := by
    rw [div_lt_iff₀ (Nat.cast_pos.mpr hd)]
    exact_mod_cast Nat.lt_mul_of_div_lt (Nat.lt_succ_self _) hd
  have hlength : n / d + 1 ≤ 2 ^ ((n / d).log2 + 1) := Nat.lt_log2_self
  generalize hplaces : (n / d).log2 - 52 = places
  have hstep : (0 : Rat) < 2 ^ places := pow_pos two_pos _
  obtain ⟨hnear, heven⟩ := abs_sub_roundHalfEven n (Nat.mul_pos hd (Nat.two_pow_pos places))
  generalize roundHalfEven n (d * 2 ^ places) = bits at hnear heven ⊢
  -- the distance in steps
  have hdistance : |(n : Rat) / d - bits * 2 ^ places| =
      |(n : Rat) / (d * 2 ^ places : Nat) - bits| * 2 ^ places := by
    rw [← abs_of_pos hstep, ← abs_mul, abs_of_pos hstep, sub_mul]
    push_cast
    rw [← div_div, div_mul_cancel₀ _ hstep.ne']
  refine ⟨?_, fun hpos => ?_, ?_, fun heq => heven ?_⟩
  · have hle : n / d + 1 ≤ 2 ^ (53 + places) :=
      hlength.trans (Nat.pow_le_pow_right (by decide) (by omega))
    exact hbehind.trans_le (by exact_mod_cast hle)
  · have hne : n / d ≠ 0 := by
      intro hzero
      rw [hzero, Nat.log2_zero] at hplaces
      omega
    have hle : 2 ^ (52 + places) ≤ n / d := by
      have hlog : 52 + places = (n / d).log2 := by omega
      rw [hlog]
      exact Nat.log2_self_le hne
    exact le_trans (by exact_mod_cast hle) hwhole
  · rw [hdistance]
    have hmul := mul_le_mul_of_nonneg_right hnear hstep.le
    linarith
  · rw [hdistance] at heq
    refine mul_right_cancel₀ hstep.ne' ?_
    rw [heq]
    ring

namespace Magnitude

theorem unitLimit_eq : unitLimit = 2 ^ (53 + 2045) := by
  have hplaces : (2098 : Nat) = 53 + 2045 := rfl
  unfold unitLimit
  generalize 53 + 2045 = places at hplaces ⊢
  rw [hplaces]
  rfl

/-- The multiple of a step to which a fraction is rounded is the size it is rounded to. -/
theorem rounds_of_rounded {q : Rat} {places bits : Nat} (h : Rounded (q * 2 ^ 1074) places bits) :
    Rounds q (if bits * 2 ^ places < unitLimit then .finite (bits * 2 ^ places)
      else .infinite) := by
  rw [unitLimit_eq]
  split
  next hlt =>
    obtain ⟨d, hnearest, hunits⟩ := h.exists_isNearest hlt
    refine Rounds.finite ((lt_halfway_iff q).mpr (h.lt_halfway_of_lt hlt)) hnearest ?_
    rw [Double.value, hunits]
    push_cast
    rfl
  next hge =>
    refine Rounds.infinite (not_lt.mp fun hlt => hge ?_)
    exact h.lt_of_lt_halfway ((lt_halfway_iff q).mp hlt)

/-- The size that is computed for a fraction is the one that the fraction is rounded to. -/
theorem rounds_nearest (n : Nat) {d : Nat} (hd : 0 < d) : Rounds (n / d) (nearest n d) := by
  have hunits : (n : Rat) / d * 2 ^ 1074 = (n * unitsPerOne : Nat) / d := by
    have hone : (unitsPerOne : Rat) = 2 ^ 1074 := by
      unfold unitsPerOne
      generalize 1074 = unit
      exact Nat.cast_pow 2 unit
    rw [Nat.cast_mul, hone, div_mul_eq_mul_div]
  have hrounded := rounded_roundHalfEven (n * unitsPerOne) hd
  rw [← hunits] at hrounded
  unfold nearest
  generalize n * unitsPerOne = scaled at hrounded ⊢
  exact rounds_of_rounded hrounded

end Magnitude

/-! ## Decimals -/

namespace Decimal

/-- The decimal as a fraction. -/
def rational (decimal : Decimal) : Rat := decimal.coefficient * 10 ^ decimal.exponent

theorem rational_sub (coefficient a b : Nat) :
    rational ⟨coefficient, (a : Int) - b⟩ =
      ((coefficient * 10 ^ a : Nat) : Rat) / (10 ^ b : Nat) := by
  rw [rational, zpow_sub₀ (by decide), zpow_natCast, zpow_natCast]
  push_cast
  exact (mul_div_assoc _ _ _).symm

/-- The size that is computed for a decimal is the one that the decimal is rounded to. -/
theorem rounds_nearest (decimal : Decimal) : Rounds decimal.rational decimal.nearest := by
  obtain ⟨coefficient, exponent⟩ := decimal
  obtain ⟨a, b, rfl⟩ : ∃ a b : Nat, exponent = a - b :=
    ⟨exponent.toNat, (-exponent).toNat, by omega⟩
  rw [nearest_sub, rational_sub]
  exact Magnitude.rounds_nearest _ (Nat.pow_pos (by decide))

theorem rounds_iff {decimal : Decimal} {size : Magnitude} :
    Rounds decimal.rational size ↔ decimal.nearest = size := by
  constructor
  · intro h
    exact decimal.rounds_nearest.unique h
  · rintro rfl
    exact decimal.rounds_nearest

/-- What lies between two decimals that are rounded to one size is rounded to it too. -/
theorem nearest_of_between {low middle high : Decimal} {size : Magnitude}
    (hlow : low.nearest = size) (hhigh : high.nearest = size)
    (hle : low.rational ≤ middle.rational) (hle' : middle.rational ≤ high.rational) :
    middle.nearest = size := by
  have hrounds := middle.rounds_nearest
  refine Magnitude.value_injective (le_antisymm ?_ ?_)
  · exact hrounds.value_le (rounds_iff.mpr hhigh) hle'
  · exact (rounds_iff.mpr hlow).value_le hrounds hle

end Decimal

end ScriptLexer
