import Criteria.Proofs.Number.Exact

/-!
Rounding decimal numbers.

A decimal number is a ratio of units, and multiplying both sides of a ratio does not
change what it rounds to. The exponents that are settled without their powers of ten
give what the ratio would give: above the bound, or less than half of the smallest
number. So the binary number nearest to a decimal number depends on its value only,
however the digits are placed.
-/

namespace Criteria

/-! ## Ratios -/

namespace Magnitude

theorem roundHalfEven_mul_mul (numerator denominator : Nat) {factor : Nat}
    (positive : 0 < factor) :
    roundHalfEven (numerator * factor) (denominator * factor) =
      roundHalfEven numerator denominator := by
  simp only [roundHalfEven, Nat.mul_div_mul_right _ _ positive, Nat.mul_mod_mul_right,
    ← Nat.mul_assoc 2, Nat.mul_lt_mul_right positive]

theorem nearestUnits_mul_mul (numerator denominator : Nat) {factor : Nat}
    (positive : 0 < factor) :
    nearestUnits (numerator * factor) (denominator * factor) =
      nearestUnits numerator denominator := by
  simp only [nearestUnits, Nat.mul_div_mul_right _ _ positive]
  rw [Nat.mul_right_comm denominator, roundHalfEven_mul_mul _ _ positive]

theorem nearest?_congr_units {numerator denominator numerator' denominator' : Nat}
    (same : nearestUnits numerator denominator = nearestUnits numerator' denominator') :
    nearest? numerator denominator = nearest? numerator' denominator' := by
  simp only [nearest?, nearest?.ofUnits?, same]

theorem nearest?_congr {numerator denominator numerator' denominator' : Nat}
    (positive : 0 < denominator) (positive' : 0 < denominator')
    (same : numerator * denominator' = numerator' * denominator) :
    nearest? numerator denominator = nearest? numerator' denominator' := by
  refine nearest?_congr_units ?_
  calc nearestUnits numerator denominator
    _ = nearestUnits (numerator * denominator') (denominator * denominator') :=
      (nearestUnits_mul_mul numerator denominator positive').symm
    _ = nearestUnits (numerator' * denominator) (denominator' * denominator) := by
      rw [same, Nat.mul_comm denominator]
    _ = nearestUnits numerator' denominator' :=
      nearestUnits_mul_mul numerator' denominator' positive

theorem nearest?_eq_none {numerator denominator : Nat}
    (large : bound ≤ numerator / denominator) :
    nearest? numerator denominator = none := by
  have nonzero : numerator / denominator ≠ 0 := (bound_pos.trans_le large).ne'
  have bits : 1024 + places ≤ (numerator / denominator).log2 :=
    (Nat.le_log2 nonzero).mpr large
  have above : bound ≤ nearestUnits numerator denominator :=
    (Nat.pow_le_pow_right (by decide) bits).trans (le_nearestUnits nonzero)
  exact dif_neg above.not_gt

theorem nearest?_eq_zero {numerator denominator : Nat}
    (small : 2 * numerator < denominator) :
    nearest? numerator denominator = some zero := by
  have less : numerator < denominator := by omega
  have rounded : nearestUnits numerator denominator = 0 := by
    simp [nearestUnits, roundHalfEven, spacing, Nat.div_eq_of_lt less,
      Nat.mod_eq_of_lt less, small]
  simp only [nearest?, nearest?.ofUnits?, rounded, bound_pos, dite_true, zero]

end Magnitude

/-! ## Decimal numbers -/

namespace Decimal

open Magnitude (one bound places)

def toRat (decimal : Decimal) : ℚ :=
  decimal.coefficient * 10 ^ decimal.exponent

/-- Ten is a little more than `2 ^ (93 / 28)`. -/
theorem two_pow_le_ten_pow (count : Nat) :
    2 ^ (93 * count + 1) ≤ 10 ^ (28 * count + 1) := by
  rw [Nat.pow_add_one, Nat.pow_add_one, Nat.pow_mul, Nat.pow_mul]
  exact Nat.mul_le_mul (Nat.pow_le_pow_left (by decide) count) (by decide)

theorem bound_le_ten_pow_mul {exponent : Nat} (large : 309 ≤ exponent) :
    bound ≤ 10 ^ exponent * one := by
  have counted : ∃ count, 11 ≤ count ∧ 28 * count + 1 ≤ exponent :=
    ⟨(exponent - 1) / 28, by omega, by omega⟩
  rcases counted with ⟨count, many, few⟩
  calc bound
    _ ≤ 2 ^ (93 * count + 1 + places) := Nat.pow_le_pow_right (by decide) (by omega)
    _ = 2 ^ (93 * count + 1) * one := Nat.pow_add ..
    _ ≤ 10 ^ (28 * count + 1) * one := Nat.mul_le_mul_right _ (two_pow_le_ten_pow count)
    _ ≤ 10 ^ exponent * one :=
      Nat.mul_le_mul_right _ (Nat.pow_le_pow_right (by decide) few)

theorem nearest?_of_nonneg {decimal : Decimal} (nonneg : 0 ≤ decimal.exponent) :
    decimal.nearest? =
      Magnitude.nearest? (decimal.coefficient * 10 ^ decimal.exponent.toNat * one) 1 := by
  unfold nearest?
  split
  · rename_i zero
    rw [zero, Nat.zero_mul, Nat.zero_mul, Magnitude.nearest?_eq_zero (by omega)]
  split
  · rename_i nonzero large
    have above : bound ≤ 10 ^ decimal.exponent.toNat * one :=
      bound_le_ten_pow_mul (by omega)
    refine (Magnitude.nearest?_eq_none ?_).symm
    rw [Nat.div_one, Nat.mul_assoc]
    exact above.trans (Nat.le_mul_of_pos_left _ (Nat.pos_of_ne_zero nonzero))
  · rw [if_neg (by omega), Nat.pow_eq]

theorem nearest?_of_neg {decimal : Decimal} (negative : decimal.exponent < 0) :
    decimal.nearest? =
      Magnitude.nearest? (decimal.coefficient * one)
        (10 ^ (-decimal.exponent).toNat) := by
  unfold nearest?
  split
  · rename_i zero
    rw [zero, Nat.zero_mul, Magnitude.nearest?_eq_zero (by positivity)]
  rw [if_neg (by omega)]
  split
  · rename_i small
    refine (Magnitude.nearest?_eq_zero ?_).symm
    have size := Magnitude.places_eq
    have bits : decimal.coefficient.log2 + 1 + places + 1 ≤
        3 * (-decimal.exponent).toNat := by
      omega
    have below : decimal.coefficient < 2 ^ (decimal.coefficient.log2 + 1) :=
      Nat.lt_log2_self
    calc 2 * (decimal.coefficient * one)
      _ < 2 * (2 ^ (decimal.coefficient.log2 + 1) * one) :=
        Nat.mul_lt_mul_of_pos_left (Nat.mul_lt_mul_of_pos_right below Magnitude.one_pos)
          (by decide)
      _ = 2 ^ (decimal.coefficient.log2 + 1 + places + 1) := by
        rw [one, Nat.pow_eq, ← Nat.pow_add, ← Nat.pow_succ']
      _ ≤ 2 ^ (3 * (-decimal.exponent).toNat) := Nat.pow_le_pow_right (by decide) bits
      _ = 8 ^ (-decimal.exponent).toNat := Nat.pow_mul 2 3 _
      _ ≤ 10 ^ (-decimal.exponent).toNat := Nat.pow_le_pow_left (by decide) _
  · rw [if_neg (by omega), Nat.pow_eq]

theorem exists_ratio (decimal : Decimal) :
    ∃ numerator denominator : Nat, 0 < denominator ∧
      (numerator : ℚ) / denominator / one = decimal.toRat ∧
      decimal.nearest? = Magnitude.nearest? numerator denominator := by
  rcases decimal with ⟨coefficient, exponent⟩
  have scale : (one : ℚ) ≠ 0 := Binary64.scale_pos.ne'
  rcases le_or_gt 0 exponent with nonneg | negative
  · refine ⟨_, 1, Nat.one_pos, ?_, nearest?_of_nonneg nonneg⟩
    rcases Int.eq_ofNat_of_zero_le nonneg with ⟨zeros, rfl⟩
    rw [Nat.cast_mul, Nat.cast_one, div_one, mul_div_cancel_right₀ _ scale, toRat]
    simp
  · refine ⟨_, _, by positivity, ?_, nearest?_of_neg negative⟩
    rcases Int.exists_eq_neg_ofNat negative.le with ⟨digits, rfl⟩
    rw [Nat.cast_mul, div_right_comm, mul_div_cancel_right₀ _ scale, toRat]
    simp [div_eq_mul_inv]

theorem nearest?_congr {left right : Decimal} (same : left.toRat = right.toRat) :
    left.nearest? = right.nearest? := by
  rcases left.exists_ratio with ⟨numerator, denominator, positive, value, rounded⟩
  rcases right.exists_ratio with ⟨numerator', denominator', positive', value', rounded'⟩
  have scale : (one : ℚ) ≠ 0 := Binary64.scale_pos.ne'
  rw [← value, ← value', div_left_inj' scale,
    div_eq_div_iff (by positivity) (by positivity)] at same
  rw [rounded, rounded']
  exact Magnitude.nearest?_congr positive positive' (by exact_mod_cast same)

theorem isNearest_of_nearest? {decimal : Decimal} {magnitude : Magnitude}
    (found : decimal.nearest? = some magnitude) :
    Binary64.IsNearest decimal.toRat (.finite false magnitude) := by
  rcases decimal.exists_ratio with ⟨numerator, denominator, positive, value, rounded⟩
  rw [← value]
  exact Binary64.isNearest_of_nearest? positive (rounded.symm.trans found)

end Decimal

end Criteria
