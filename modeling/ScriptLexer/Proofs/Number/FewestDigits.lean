import ScriptLexer.Proofs.Number.CorrectRounding
import ScriptLexer.Proofs.Number.ReadBack
import ScriptLexer.Proofs.Text.RowAround

set_option autoImplicit false

/-! # Shortest decimals have the fewest digits

No decimal with fewer digits than the one by which a number is shown reads back as the number
(`Shortest.length_significantDigits_le`). The decimals that read back fill the space between any two
of them, so on a grid that has one of them at all, one of the number's two neighbours is such
(`Shortest.exists_onGrid`), and the coarsest grid of this kind is the one that is found
(`Shortest.exists_decimal_eq`). -/

namespace ScriptLexer

/-! ## Numbers of digits -/

theorem Text.length_ofNat_le_iff {n k : Nat} (hk : 0 < k) : (ofNat n).length ≤ k ↔ n < 10 ^ k :=
  Nat.length_toDigits_le_iff (by decide) hk

theorem Text.length_ofNat_pos (n : Nat) : 0 < (ofNat n).length := Nat.length_toDigits_pos

theorem Text.lt_pow_length (n : Nat) : n < 10 ^ (ofNat n).length :=
  (length_ofNat_le_iff (length_ofNat_pos n)).mp (Nat.le_refl _)

theorem Text.pow_length_le {n : Nat} (hn : 0 < n) : 10 ^ ((ofNat n).length - 1) ≤ n := by
  rcases Nat.eq_zero_or_pos ((ofNat n).length - 1) with hzero | hpos
  · rw [hzero]
    exact hn
  · by_contra hlt
    have hshorter := (length_ofNat_le_iff hpos).mpr (Nat.not_le.mp hlt)
    omega

theorem Text.ofNat_mul_ten {n : Nat} (hn : 0 < n) : ofNat (n * 10) = ofNat n ++ ['0'] := by
  unfold ofNat
  rw [Nat.toDigits_of_base_le (by decide) (by omega), Nat.mul_div_cancel n (by decide),
    Nat.mul_mod_left]
  rfl

namespace Decimal

theorem significantDigits_zero (exponent : Int) : significantDigits ⟨0, exponent⟩ = [] := by
  have hzero : Text.ofNat 0 = ['0'] := Nat.toDigits_of_lt_base (by decide)
  rw [significantDigits, hzero]
  rfl

/-- Zeros at the end of a coefficient do not count. -/
theorem significantDigits_mul_pow (coefficient zeros : Nat) (exponent : Int) :
    significantDigits ⟨coefficient * 10 ^ zeros, exponent⟩ =
      significantDigits ⟨coefficient, exponent⟩ := by
  rcases Nat.eq_zero_or_pos coefficient with rfl | hpos
  · rw [Nat.zero_mul]
  induction zeros with
  | zero => rw [Nat.pow_zero, Nat.mul_one]
  | succ zeros ih =>
    have hpos' : 0 < coefficient * 10 ^ zeros := Nat.mul_pos hpos (Nat.pow_pos (by decide))
    rw [← ih, significantDigits, significantDigits, Nat.pow_succ, ← Nat.mul_assoc,
      Text.ofNat_mul_ten hpos', Text.trimEnd_append (by simp)]

theorem length_significantDigits_le {coefficient digits : Nat} (hlt : coefficient < 10 ^ digits)
    (exponent : Int) : (significantDigits ⟨coefficient, exponent⟩).length ≤ digits := by
  rcases Nat.eq_zero_or_pos digits with rfl | hdigits
  · obtain rfl : coefficient = 0 := Nat.lt_one_iff.mp hlt
    rw [significantDigits_zero]
    exact Nat.le_refl 0
  · exact (Text.length_trimEnd_le _ _).trans ((Text.length_ofNat_le_iff hdigits).mpr hlt)

/-! ## Sizes of decimals -/

theorem rational_one (power : Int) : rational ⟨1, power⟩ = 10 ^ power := by
  rw [rational, Nat.cast_one, one_mul]

theorem rational_pow (digits : Nat) (exponent : Int) :
    rational ⟨10 ^ digits, exponent⟩ = 10 ^ ((digits : Int) + exponent) := by
  rw [rational, zpow_add₀ (by decide), zpow_natCast, Nat.cast_pow]
  rfl

theorem rational_le_rational {a b : Nat} {exponent : Int} :
    rational ⟨a, exponent⟩ ≤ rational ⟨b, exponent⟩ ↔ a ≤ b := by
  have hpower : (0 : Rat) < 10 ^ exponent := zpow_pos (by decide) _
  rw [rational, rational, mul_le_mul_iff_of_pos_right hpower, Nat.cast_le]

theorem rational_lt_rational {a b : Nat} {exponent : Int} :
    rational ⟨a, exponent⟩ < rational ⟨b, exponent⟩ ↔ a < b := by
  rw [← not_le, rational_le_rational, Nat.not_le]

/-- A decimal is less than the power of ten that its digits reach. -/
theorem rational_lt_pow {coefficient digits : Nat} (hlt : coefficient < 10 ^ digits)
    (exponent : Int) : rational ⟨coefficient, exponent⟩ < 10 ^ ((digits : Int) + exponent) := by
  rw [← rational_pow]
  exact rational_lt_rational.mpr hlt

theorem pow_le_rational {coefficient digits : Nat} (hle : 10 ^ digits ≤ coefficient)
    (exponent : Int) :
    (10 : Rat) ^ ((digits : Int) + exponent) ≤ rational ⟨coefficient, exponent⟩ := by
  rw [← rational_pow]
  exact rational_le_rational.mpr hle

end Decimal

/-! ## Grids -/

namespace Shortest

open Decimal (rational)

/-- The number of digits of a finite size in units of `10 ^ (-1074)`. -/
def width (units : Nat) : Nat := (Text.ofNat (exactly units)).length

variable {units grid point : Nat}

theorem exactly_pos (hpos : 0 < units) : 0 < exactly units := by
  unfold exactly
  generalize 1074 = places
  exact Nat.mul_pos hpos (Nat.pow_pos (by decide))

theorem width_pos (units : Nat) : 0 < width units := Text.length_ofNat_pos _

theorem exactly_lt (units : Nat) : exactly units < 10 ^ width units := Text.lt_pow_length _

theorem pow_le_exactly (hpos : 0 < units) : 10 ^ (width units - 1) ≤ exactly units :=
  Text.pow_length_le (exactly_pos hpos)

/-- The decade of a number. -/
theorem exactly_decade (hpos : 0 < units) :
    (10 : Rat) ^ (((width units - 1 : Nat) : Int) + -1074) ≤ rational ⟨exactly units, -1074⟩ ∧
      rational ⟨exactly units, -1074⟩ < 10 ^ ((width units : Int) + -1074) :=
  ⟨Decimal.pow_le_rational (pow_le_exactly hpos) _, Decimal.rational_lt_pow (exactly_lt units) _⟩

theorem readsBack_iff :
    readsBack units grid point = true ↔
      Decimal.nearest ⟨point, (grid : Int) - 1074⟩ = .finite units :=
  beq_iff_eq

/-- The points of the grids are compared as whole numbers of `10 ^ (-1074)`. -/
theorem rational_le_iff {grid' point' : Nat} :
    rational ⟨point, (grid : Int) - 1074⟩ ≤ rational ⟨point', (grid' : Int) - 1074⟩ ↔
      point * 10 ^ grid ≤ point' * 10 ^ grid' := by
  have hone : (0 : Rat) < 10 ^ (1074 : Int) := zpow_pos (by decide) _
  have hten : (10 : Rat) ≠ 0 := by decide
  rw [rational, rational, zpow_sub₀ hten, zpow_sub₀ hten, zpow_natCast, zpow_natCast,
    ← mul_div_assoc, ← mul_div_assoc, div_le_div_iff_of_pos_right hone]
  exact_mod_cast Iff.rfl

/-- Where one point of a grid reads back, one is found. -/
theorem exists_onGrid (hunits : (Magnitude.finite units).IsBinary64)
    (h : readsBack units grid point = true) : ∃ found, onGrid units grid = some found := by
  have hexactly : Decimal.nearest ⟨exactly units, ((0 : Nat) : Int) - 1074⟩ = .finite units :=
    nearest_exactly hunits
  have hstep : 0 < 10 ^ grid := Nat.pow_pos (by decide)
  have hbelow : exactly units / 10 ^ grid * 10 ^ grid ≤ exactly units * 10 ^ 0 := by
    rw [Nat.pow_zero, Nat.mul_one]
    exact Nat.div_mul_le_self _ _
  have habove : exactly units * 10 ^ 0 ≤ (exactly units / 10 ^ grid + 1) * 10 ^ grid := by
    rw [Nat.pow_zero, Nat.mul_one, Nat.succ_mul]
    exact (Nat.lt_div_mul_add hstep).le
  rw [readsBack_iff] at h
  have hneighbour : readsBack units grid (exactly units / 10 ^ grid) = true ∨
      readsBack units grid (exactly units / 10 ^ grid + 1) = true := by
    rw [readsBack_iff, readsBack_iff]
    rcases Nat.lt_or_ge (exactly units / 10 ^ grid) point with hlt | hge
    · right
      exact Decimal.nearest_of_between hexactly h (rational_le_iff.mpr habove)
        (rational_le_iff.mpr (Nat.mul_le_mul_right _ hlt))
    · left
      exact Decimal.nearest_of_between h hexactly
        (rational_le_iff.mpr (Nat.mul_le_mul_right _ hge)) (rational_le_iff.mpr hbelow)
  have hfound : onGrid units grid ≠ none := by
    intro hnone
    simp only [onGrid] at hnone
    split at hnone
    · split at hnone
      · cases hnone
      split at hnone
      · cases hnone
      · cases hnone
    · cases hnone
    · cases hnone
    next hlow hhigh =>
      rcases hneighbour with hread | hread
      · exact absurd (hread.symm.trans hlow) (by decide)
      · exact absurd (hread.symm.trans hhigh) (by decide)
  exact Option.ne_none_iff_exists'.mp hfound

/-- What is found on a grid is one of the two neighbours. -/
theorem onGrid_bounds (h : onGrid units grid = some point) :
    exactly units / 10 ^ grid ≤ point ∧ point ≤ exactly units / 10 ^ grid + 1 := by
  have hpow : Nat.pow 10 grid = 10 ^ grid := rfl
  simp only [onGrid, hpow] at h
  generalize exactly units / 10 ^ grid = low at h ⊢
  split at h
  · split at h
    · cases h
      omega
    split at h
    · cases h
      omega
    · cases h
      omega
  · cases h
    omega
  · cases h
    omega
  · cases h

/-- What is found on a grid has no fewer digits than the number, and no more unless it is a power of
ten. -/
theorem onGrid_decade (hpos : 0 < units) (hgrid : grid < width units)
    (h : onGrid units grid = some point) :
    10 ^ (width units - 1 - grid) ≤ point ∧ point ≤ 10 ^ (width units - grid) := by
  have hstep : 0 < 10 ^ grid := Nat.pow_pos (by decide)
  obtain ⟨hlow, hhigh⟩ := onGrid_bounds h
  constructor
  · refine le_trans ?_ hlow
    rw [Nat.le_div_iff_mul_le hstep, ← Nat.pow_add, Nat.sub_add_cancel (by omega)]
    exact pow_le_exactly hpos
  · refine hhigh.trans ?_
    rw [Nat.succ_le_iff, Nat.div_lt_iff_lt_mul hstep, ← Nat.pow_add, Nat.sub_add_cancel hgrid.le]
    exact exactly_lt units

/-- Zero is a point of every grid, and found there. -/
theorem onGrid_zero (grid : Nat) : onGrid 0 grid = some 0 := by
  have hexactly : exactly 0 = 0 := by
    unfold exactly
    generalize 1074 = places
    exact Nat.zero_mul _
  have hread : readsBack 0 grid 0 = true := readsBack_iff.mpr (Decimal.nearest_zero _)
  have hstep : 0 < Nat.pow 10 grid := Nat.pow_pos (by decide)
  simp only [onGrid, hexactly, Nat.zero_div, Nat.zero_mod, Nat.mul_zero, hread, if_pos hstep]
  cases readsBack 0 grid (0 + 1) with
  | true => rfl
  | false => rfl

/-! ## The grid that is found -/

/-- What is found first in a range. -/
theorem findSome?_range {α : Type} {find : Nat → Option α} {count : Nat} {found : α}
    (h : (List.range count).findSome? find = some found) :
    ∃ index < count, find index = some found ∧ ∀ earlier < index, find earlier = none := by
  induction count with
  | zero => cases h
  | succ count ih =>
    rw [List.range_succ, List.findSome?_append] at h
    cases hfront : (List.range count).findSome? find with
    | some front =>
      rw [hfront] at h
      obtain ⟨index, hindex, hfound⟩ := ih (hfront.trans h)
      exact ⟨index, by omega, hfound⟩
    | none =>
      rw [hfront] at h
      refine ⟨count, by omega, by simpa using h, fun earlier hearlier => ?_⟩
      exact List.findSome?_eq_none_iff.mp hfront earlier (List.mem_range.mpr hearlier)

/-- The decimal that shows a number is found on the coarsest grid on which one is. -/
theorem exists_decimal_eq (hunits : (Magnitude.finite units).IsBinary64) :
    ∃ grid point, grid < width units ∧ onGrid units grid = some point ∧
      decimal units = ⟨point, (grid : Int) - 1074⟩ ∧
      ∀ coarser, grid < coarser → coarser < width units → onGrid units coarser = none := by
  let find := fun coarse : Nat =>
    (onGrid units (width units - 1 - coarse)).map fun point =>
      (⟨point, ((width units - 1 - coarse : Nat) : Int) - 1074⟩ : Decimal)
  have hdecimal : decimal units =
      ((List.range (width units)).findSome? find).getD ⟨exactly units, -1074⟩ := rfl
  have hwidth := width_pos units
  cases hfound : (List.range (width units)).findSome? find with
  | none =>
    -- the number itself lies on the finest grid
    exfalso
    have hexactly : readsBack units 0 (exactly units) = true :=
      readsBack_iff.mpr (nearest_exactly hunits)
    obtain ⟨point, hpoint⟩ := exists_onGrid hunits hexactly
    have hnone := List.findSome?_eq_none_iff.mp hfound (width units - 1)
      (List.mem_range.mpr (by omega))
    simp only [find, Nat.sub_self, hpoint] at hnone
    cases hnone
  | some found =>
    obtain ⟨coarse, hcoarse, hfind, hearlier⟩ := findSome?_range hfound
    obtain ⟨point, hpoint, rfl⟩ := Option.map_eq_some_iff.mp hfind
    refine ⟨width units - 1 - coarse, point, by omega, hpoint, ?_, ?_⟩
    · rw [hdecimal, hfound]
      rfl
    · intro coarser hlt hcoarser
      have hnone := hearlier (width units - 1 - coarser) (by omega)
      have hgrid : width units - 1 - (width units - 1 - coarser) = coarser := by omega
      simp only [find, hgrid, Option.map_eq_none_iff] at hnone
      exact hnone

/-- If a decimal with so many digits reads back, a point does on a grid that leaves the number no
more digits than these. -/
theorem exists_grid (hpos : 0 < units) (hunits : (Magnitude.finite units).IsBinary64)
    {coefficient digits : Nat} {exponent : Int} (hlt : coefficient < 10 ^ digits)
    (h : Decimal.nearest ⟨coefficient, exponent⟩ = .finite units) :
    ∃ grid point, grid < width units ∧ width units ≤ grid + digits ∧
      readsBack units grid point = true := by
  have hwidth := width_pos units
  have hcoefficient : 0 < coefficient := by
    rcases Nat.eq_zero_or_pos coefficient with rfl | hcoefficient
    · rw [Decimal.nearest_zero] at h
      cases h
      omega
    · exact hcoefficient
  have hdigits : 0 < digits := by
    rcases Nat.eq_zero_or_pos digits with rfl | hdigits
    · rw [Nat.pow_zero] at hlt
      omega
    · exact hdigits
  have hexactly : Decimal.nearest ⟨exactly units, -1074⟩ = .finite units :=
    nearest_exactly hunits
  let top := width units - 1
  have htop : rational ⟨1, (top : Int) + -1074⟩ ≤ rational ⟨exactly units, -1074⟩ := by
    rw [Decimal.rational_one]
    exact (exactly_decade hpos).1
  by_cases hle : rational ⟨coefficient, exponent⟩ ≤ rational ⟨1, (top : Int) + -1074⟩
  · -- a power of ten lies between the decimal and the number
    refine ⟨top, 1, by omega, by omega, readsBack_iff.mpr ?_⟩
    exact Decimal.nearest_of_between h hexactly hle htop
  · -- the decimal has as many digits as its size asks for on its grid
    have hsize : (top : Int) + -1074 < digits + exponent := by
      have hpower : (10 : Rat) ^ ((top : Int) + -1074) < 10 ^ ((digits : Int) + exponent) :=
        calc (10 : Rat) ^ ((top : Int) + -1074)
            = rational ⟨1, (top : Int) + -1074⟩ := (Decimal.rational_one _).symm
          _ < rational ⟨coefficient, exponent⟩ := not_le.mp hle
          _ < 10 ^ ((digits : Int) + exponent) := Decimal.rational_lt_pow hlt _
      exact (zpow_lt_zpow_iff_right₀ (by decide)).mp hpower
    rcases Int.lt_or_le (exponent + 1074) 0 with hfine | hcoarse
    · exact ⟨0, exactly units, hwidth, by omega, readsBack_iff.mpr hexactly⟩
    obtain ⟨grid, hgrid⟩ := Int.eq_ofNat_of_zero_le hcoarse
    obtain rfl : exponent = (grid : Int) - 1074 := by omega
    by_cases hin : grid < width units
    · exact ⟨grid, coefficient, hin, by omega, readsBack_iff.mpr h⟩
    · -- a grid that is coarser than all of them
      obtain ⟨zeros, rfl⟩ := Nat.exists_eq_add_of_le (Nat.le_of_not_lt hin)
      refine ⟨top, coefficient * 10 ^ (zeros + 1), by omega, by omega, readsBack_iff.mpr ?_⟩
      have hexponent : (top : Int) - 1074 + (zeros + 1 : Nat) =
          ((width units + zeros : Nat) : Int) - 1074 := by
        omega
      rw [Decimal.nearest_shift, hexponent]
      exact h

/-- **No decimal with fewer digits reads back.** -/
theorem length_significantDigits_le (hunits : (Magnitude.finite units).IsBinary64)
    {coefficient digits : Nat} {exponent : Int} (hlt : coefficient < 10 ^ digits)
    (h : Decimal.nearest ⟨coefficient, exponent⟩ = .finite units) :
    (decimal units).significantDigits.length ≤ digits := by
  obtain ⟨grid, point, hgrid, hpoint, hdecimal, hnone⟩ := exists_decimal_eq hunits
  rw [hdecimal]
  rcases Nat.eq_zero_or_pos units with rfl | hpos
  · obtain rfl : 0 = point := Option.some.inj ((onGrid_zero grid).symm.trans hpoint)
    rw [Decimal.significantDigits_zero]
    exact Nat.zero_le digits
  obtain ⟨grid', point', hgrid', hdigits, hread⟩ := exists_grid hpos hunits hlt h
  obtain ⟨found, hfound⟩ := exists_onGrid hunits hread
  have hcoarse : grid' ≤ grid := by
    by_contra hlt'
    rw [hnone grid' (by omega) hgrid'] at hfound
    cases hfound
  have hle := (onGrid_decade hpos hgrid hpoint).2
  have hfew : (Decimal.significantDigits ⟨point, (grid : Int) - 1074⟩).length ≤
      width units - grid := by
    rcases Nat.lt_or_eq_of_le hle with hlt' | heq
    · exact Decimal.length_significantDigits_le hlt' _
    · have hone := Decimal.significantDigits_mul_pow 1 (width units - grid) ((grid : Int) - 1074)
      rw [Nat.one_mul, ← heq] at hone
      rw [hone]
      exact (@Decimal.length_significantDigits_le 1 1 (by decide) _).trans (by omega)
  omega

/-- The decimal that shows a number is in the decade of the number, its upper end included. -/
theorem decimal_decade (hpos : 0 < units) (hunits : (Magnitude.finite units).IsBinary64) :
    (10 : Rat) ^ (((width units - 1 : Nat) : Int) + -1074) ≤ (decimal units).rational ∧
      (decimal units).rational ≤ 10 ^ ((width units : Int) + -1074) := by
  obtain ⟨grid, point, hgrid, hpoint, hdecimal, -⟩ := exists_decimal_eq hunits
  obtain ⟨hlow, hhigh⟩ := onGrid_decade hpos hgrid hpoint
  have hfirst : ((width units - 1 : Nat) : Int) + -1074 =
      ((width units - 1 - grid : Nat) : Int) + ((grid : Int) - 1074) := by
    omega
  have hlast : (width units : Int) + -1074 =
      ((width units - grid : Nat) : Int) + ((grid : Int) - 1074) := by
    omega
  rw [hdecimal, hfirst, hlast, ← Decimal.rational_pow, ← Decimal.rational_pow]
  exact ⟨Decimal.rational_le_rational.mpr hlow, Decimal.rational_le_rational.mpr hhigh⟩

end Shortest

end ScriptLexer
