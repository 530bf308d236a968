import ScriptLexer.Number.Binary64
import Mathlib.Algebra.Order.Ring.Abs
import Mathlib.Algebra.Order.Ring.Int
import Mathlib.Algebra.Order.Field.Rat
import Mathlib.Algebra.Ring.Int.Parity
import Mathlib.Order.WithBot
import Mathlib.Tactic.Linarith
import Mathlib.Tactic.Ring

set_option autoImplicit false

/-! # Nearest numbers

The finite binary64 numbers are whole numbers of 53 bits times powers of two (`Double`). One of them
is nearest to a fraction if no other is nearer, and if it is even in its last bit where another is
as near (`IsNearest`). Each fraction has at most one such number, and a larger fraction has no
smaller one (`IsNearest.value_le`). Fractions from halfway beyond the largest finite number on are
rounded to infinity (`Rounds`), which keeps both (`Rounds.unique`, `Rounds.value_le`). -/

namespace ScriptLexer

/-! ## Finite numbers -/

/-- A finite binary64 number: a whole number of at most 53 bits, times a power of two between
`2 ^ (-1074)` and `2 ^ 971`. The power is the least one possible, so all 53 bits are in use unless
it is `2 ^ (-1074)`. -/
structure Double where
  /-- The whole number with its sign. -/
  significand : Int
  /-- How far the power of two is above `2 ^ (-1074)`. -/
  places : Nat
  fits : |significand| < 2 ^ 53
  inRange : places ≤ 2045
  normal : 2 ^ 52 ≤ |significand| ∨ places = 0

namespace Double

/-- How many units of `2 ^ (-1074)` the number is. -/
def units (d : Double) : Int := d.significand * 2 ^ d.places

/-- The number as a fraction. -/
def value (d : Double) : Rat := d.units / 2 ^ 1074

theorem value_lt_value {d e : Double} : d.value < e.value ↔ d.units < e.units := by
  have hone : (0 : Rat) < 2 ^ 1074 := pow_pos two_pos _
  unfold value
  rw [div_lt_div_iff_of_pos_right hone, Int.cast_lt]

/-- Whole numbers of 53 bits times powers of two in range are finite numbers. -/
theorem exists_units_eq {significand : Int} {places : Nat} (hlt : |significand| < 2 ^ 53)
    (hle : places ≤ 2045) : ∃ d : Double, d.units = significand * 2 ^ places := by
  induction places generalizing significand with
  | zero => exact ⟨⟨significand, 0, hlt, hle, Or.inr rfl⟩, rfl⟩
  | succ places ih =>
    by_cases hnormal : 2 ^ 52 ≤ |significand|
    · exact ⟨⟨significand, places + 1, hlt, hle, Or.inl hnormal⟩, rfl⟩
    · -- there is room for one more bit
      obtain ⟨d, hd⟩ := @ih (significand * 2) (by rw [abs_mul, abs_two]; omega) (by omega)
      refine ⟨d, ?_⟩
      rw [hd]
      ring

/-- The numbers one step from an even one are finite. -/
theorem exists_neighbour {d : Double} (heven : Even d.significand) {step : Int}
    (hstep : step = 1 ∨ step = -1) :
    ∃ f : Double, f.units = d.units + step * 2 ^ d.places := by
  have hlt : |d.significand + step| < 2 ^ 53 := by
    have hfits := d.fits
    rw [abs_lt] at hfits ⊢
    obtain ⟨half, hhalf⟩ := heven
    omega
  obtain ⟨f, hf⟩ := exists_units_eq hlt d.inRange
  refine ⟨f, ?_⟩
  rw [hf, units, add_mul]

/-- Of two even multiples of a step, one is more than a step above the other. -/
theorem add_step_lt {low high : Int} (hlow : Even low) (hhigh : Even high) {places : Nat}
    (hlt : low * 2 ^ places < high * 2 ^ places) :
    low * 2 ^ places + 2 ^ places < high * 2 ^ places := by
  have hstep : (0 : Int) < 2 ^ places := by positivity
  have hlt' : low < high := lt_of_mul_lt_mul_right hlt hstep.le
  have hgap : low + 1 < high := by
    obtain ⟨half, rfl⟩ := hlow
    obtain ⟨half', rfl⟩ := hhigh
    omega
  have hmul := mul_lt_mul_of_pos_right hgap hstep
  rwa [add_mul, one_mul] at hmul

/-- Between two even numbers there is another number. -/
theorem exists_between {d e : Double} (hd : Even d.significand) (he : Even e.significand)
    (hlt : d.units < e.units) : ∃ f : Double, d.units < f.units ∧ f.units < e.units := by
  have hstep : ∀ places : Nat, (0 : Int) < 2 ^ places := fun places => by positivity
  -- the finer one of the two steps fits in between, for both numbers are multiples of it
  rcases Nat.le_total d.places e.places with hle | hle
  · obtain ⟨more, hmore⟩ := Nat.exists_eq_add_of_le hle
    have hunits : e.units = e.significand * 2 ^ more * 2 ^ d.places := by
      rw [units, hmore]
      ring
    obtain ⟨f, hf⟩ := exists_neighbour hd (Or.inl rfl)
    rw [one_mul] at hf
    refine ⟨f, hf ▸ lt_add_of_pos_right _ (hstep _), ?_⟩
    rw [hunits] at hlt ⊢
    rw [hf]
    exact add_step_lt hd (he.mul_right _) hlt
  · obtain ⟨more, hmore⟩ := Nat.exists_eq_add_of_le hle
    have hunits : d.units = d.significand * 2 ^ more * 2 ^ e.places := by
      rw [units, hmore]
      ring
    obtain ⟨f, hf⟩ := exists_neighbour he (Or.inr rfl)
    rw [neg_one_mul, ← sub_eq_add_neg] at hf
    refine ⟨f, ?_, hf ▸ sub_lt_self _ (hstep _)⟩
    rw [hunits] at hlt ⊢
    rw [hf, lt_sub_iff_add_lt]
    exact add_step_lt (hd.mul_right _) he hlt

end Double

/-! ## The nearest finite number -/

/-- The finite number is nearest to the fraction, and even if another one is as near. -/
structure IsNearest (q : Rat) (d : Double) : Prop where
  le : ∀ e : Double, |q - d.value| ≤ |q - e.value|
  even : ∀ e : Double, e.value ≠ d.value → |q - e.value| = |q - d.value| → Even d.significand

namespace IsNearest

variable {q q' : Rat} {d d' : Double}

/-- A finite number is nearest to itself only. -/
theorem value_eq_self (h : IsNearest d'.value d) : d.value = d'.value := by
  have hdistance := h.le d'
  rw [sub_self, abs_zero] at hdistance
  exact (sub_eq_zero.mp (abs_nonpos_iff.mp hdistance)).symm

/-- A number that is nearest to a fraction is not beyond the middle from a larger one. -/
theorem le_middle (h : IsNearest q d) (hlt : d.value < d'.value) : 2 * q ≤ d.value + d'.value := by
  by_contra hgt
  have hnearer : |q - d'.value| < q - d.value := by
    rw [abs_lt]
    constructor
    · linarith
    · linarith
  exact absurd (h.le d') (not_le.mpr (hnearer.trans_le (le_abs_self _)))

/-- Nor is it from a smaller one. -/
theorem middle_le (h : IsNearest q d) (hlt : d'.value < d.value) : d'.value + d.value ≤ 2 * q := by
  by_contra hgt
  have hnearer : |q - d'.value| < -(q - d.value) := by
    rw [abs_lt]
    constructor
    · linarith
    · linarith
  exact absurd (h.le d') (not_le.mpr (hnearer.trans_le (neg_le_abs _)))

/-- No two numbers are nearest to one fraction. -/
theorem not_lt (h : IsNearest q d) (h' : IsNearest q d') : ¬d.value < d'.value := by
  intro hlt
  have hdistance : |q - d.value| = |q - d'.value| := le_antisymm (h.le d') (h'.le d)
  have hmiddle : 2 * q = d.value + d'.value := le_antisymm (h.le_middle hlt) (h'.middle_le hlt)
  -- both are even, so a third number is between them, and nearer to the middle
  obtain ⟨f, hdf, hfd'⟩ := Double.exists_between (h.even d' hlt.ne' hdistance.symm)
    (h'.even d hlt.ne hdistance) (Double.value_lt_value.mp hlt)
  rw [← Double.value_lt_value] at hdf hfd'
  have hnearer := h.le_middle hdf
  linarith

theorem value_eq (h : IsNearest q d) (h' : IsNearest q d') : d.value = d'.value :=
  le_antisymm (le_of_not_gt (h'.not_lt h)) (le_of_not_gt (h.not_lt h'))

/-- A larger fraction has no smaller nearest number. -/
theorem value_le (h : IsNearest q d) (h' : IsNearest q' d') (hle : q ≤ q') :
    d.value ≤ d'.value := by
  by_contra hgt
  have hlt := not_le.mp hgt
  have hq' := h'.le_middle hlt
  have hq := h.middle_le hlt
  obtain rfl : q = q' := le_antisymm hle (by linarith)
  exact hgt (h.value_eq h').le

end IsNearest

/-! ## Rounding -/

namespace Magnitude

/-- The size as a fraction, or infinity. -/
def value : Magnitude → WithTop Rat
  | .finite units => ((units / 2 ^ 1074 : Rat) : WithTop Rat)
  | .infinite => ⊤

theorem value_injective {size size' : Magnitude} (h : size.value = size'.value) : size = size' := by
  have hone : (2 : Rat) ^ 1074 ≠ 0 := pow_ne_zero _ two_ne_zero
  cases size with
  | infinite =>
    cases size' with
    | infinite => rfl
    | finite units' => exact absurd h.symm (WithTop.coe_ne_top)
  | finite units =>
    cases size' with
    | infinite => exact absurd h (WithTop.coe_ne_top)
    | finite units' =>
      have hunits := (div_left_inj' hone).mp (WithTop.coe_injective h)
      rw [Nat.cast_inj.mp hunits]

end Magnitude

/-- The size that a fraction is rounded to, half to even: the nearest finite number, but infinity
from halfway between the largest finite number and `2 ^ 1024` on. -/
inductive Rounds (q : Rat) : Magnitude → Prop where
  | finite {units : Nat} {d : Double} (hlt : q < 2 ^ 1024 - 2 ^ 970) (hnearest : IsNearest q d)
      (hvalue : d.value = units / 2 ^ 1074) : Rounds q (.finite units)
  | infinite (hle : 2 ^ 1024 - 2 ^ 970 ≤ q) : Rounds q .infinite

namespace Rounds

variable {q q' : Rat} {size size' : Magnitude}

theorem eq_infinite_iff (h : Rounds q size) : size = .infinite ↔ 2 ^ 1024 - 2 ^ 970 ≤ q := by
  cases h with
  | finite hlt _ _ => simp [not_le.mpr hlt]
  | infinite hle => simp [hle]

/-- A larger fraction is not rounded to a smaller size. -/
theorem value_le (h : Rounds q size) (h' : Rounds q' size') (hle : q ≤ q') :
    size.value ≤ size'.value := by
  cases h' with
  | infinite _ => exact le_top
  | finite hlt' hnearest' hvalue' =>
    cases h with
    | infinite hbeyond => exact absurd (hbeyond.trans hle) (not_le.mpr hlt')
    | finite hlt hnearest hvalue =>
      have hvalues := hnearest.value_le hnearest' hle
      rw [hvalue, hvalue'] at hvalues
      exact WithTop.coe_le_coe.mpr hvalues

/-- A fraction is rounded to one size only. -/
theorem unique (h : Rounds q size) (h' : Rounds q size') : size = size' :=
  Magnitude.value_injective (le_antisymm (h.value_le h' le_rfl) (h'.value_le h le_rfl))

end Rounds

end ScriptLexer
