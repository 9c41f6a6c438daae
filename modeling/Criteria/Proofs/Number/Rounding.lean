import Criteria.Number.Basic

/-!
Rounding keeps order.

A ratio whose whole part has `n + 1` bits rounds to between `2 ^ n` and `2 ^ (n + 1)`.
So of two ratios the greater one never rounds to less: if their whole parts have as
many bits, both are rounded to the same spacing, and else a power of two lies between
what they round to. It follows that the places of integers on the line of the format
are in the order of the integers, though different integers can share a place. Up to
`2 ^ 53` they do not.
-/

namespace Criteria

namespace Magnitude

/-! ## Ratios -/

theorem roundHalfEven_mono {numerator other : Nat} (denominator : Nat)
    (le : numerator ≤ other) :
    roundHalfEven numerator denominator ≤ roundHalfEven other denominator := by
  rcases Nat.eq_or_lt_of_le (Nat.div_le_div_right (c := denominator) le) with same | less
  · have parts := Nat.div_add_mod numerator denominator
    have otherParts := Nat.div_add_mod other denominator
    rw [same] at parts
    have rests : numerator % denominator ≤ other % denominator := by omega
    simp only [roundHalfEven, same]
    repeat' split
    all_goals omega
  · have upper := roundHalfEven_le numerator denominator
    have lower := le_roundHalfEven other denominator
    omega

theorem spacing_pos (units : Nat) : 0 < spacing units :=
  Nat.two_pow_pos (units.log2 - 52)

theorem spacing_mul {units exponent : Nat} (enough : units.log2 ≤ exponent) :
    Nat.pow 2 (exponent - (units.log2 - 52)) * spacing units = Nat.pow 2 exponent := by
  simp only [spacing, Nat.pow_eq]
  rw [← Nat.pow_add, Nat.sub_add_cancel (by omega)]

theorem nearestUnits_le (numerator denominator : Nat) :
    nearestUnits numerator denominator ≤
      Nat.pow 2 ((numerator / denominator).log2 + 1) := by
  have rounded :=
    roundHalfEven_le numerator (denominator * spacing (numerator / denominator))
  rw [← Nat.div_div_eq_div_mul] at rounded
  rw [nearestUnits, ← spacing_mul (Nat.le_succ (numerator / denominator).log2)]
  refine Nat.mul_le_mul_right _ (Nat.le_trans rounded (Nat.succ_le_of_lt ?_))
  rw [Nat.div_lt_iff_lt_mul (spacing_pos _), spacing_mul (Nat.le_succ _)]
  exact Nat.lt_log2_self

theorem le_nearestUnits {numerator denominator : Nat}
    (nonzero : numerator / denominator ≠ 0) :
    Nat.pow 2 (numerator / denominator).log2 ≤ nearestUnits numerator denominator := by
  have rounded :=
    le_roundHalfEven numerator (denominator * spacing (numerator / denominator))
  rw [← Nat.div_div_eq_div_mul] at rounded
  rw [nearestUnits, ← spacing_mul (Nat.le_refl (numerator / denominator).log2)]
  refine Nat.mul_le_mul_right _ (Nat.le_trans ?_ rounded)
  rw [Nat.le_div_iff_mul_le (spacing_pos _), spacing_mul (Nat.le_refl _)]
  exact Nat.log2_self_le nonzero

theorem log2_mono {whole other : Nat} (le : whole ≤ other) : whole.log2 ≤ other.log2 := by
  by_cases zero : whole = 0
  · simp [zero]
  · exact (Nat.le_log2 (by omega)).mpr (Nat.le_trans (Nat.log2_self_le zero) le)

theorem nearestUnits_mono {numerator other : Nat} (denominator : Nat)
    (le : numerator ≤ other) :
    nearestUnits numerator denominator ≤ nearestUnits other denominator := by
  have wholes : numerator / denominator ≤ other / denominator := Nat.div_le_div_right le
  rcases Nat.eq_or_lt_of_le (log2_mono wholes) with same | fewer
  · simp only [nearestUnits, spacing, same]
    exact Nat.mul_le_mul_right _ (roundHalfEven_mono _ le)
  · have nonzero : other / denominator ≠ 0 := by
      intro zero
      rw [zero, Nat.log2_zero] at fewer
      exact Nat.not_lt_zero _ fewer
    calc nearestUnits numerator denominator
      _ ≤ Nat.pow 2 ((numerator / denominator).log2 + 1) :=
        nearestUnits_le numerator denominator
      _ ≤ Nat.pow 2 (other / denominator).log2 := Nat.pow_le_pow_right (by decide) fewer
      _ ≤ nearestUnits other denominator := le_nearestUnits nonzero

theorem units_of_nearest? {numerator denominator : Nat} {magnitude : Magnitude}
    (found : nearest? numerator denominator = some magnitude) :
    magnitude.units = nearestUnits numerator denominator := by
  simp only [nearest?, nearest?.ofUnits?] at found
  split at found
  · exact (congrArg units (Option.some.inj found)).symm
  · cases found

theorem nearestUnits_eq (magnitude : Magnitude) :
    nearestUnits magnitude.units 1 = magnitude.units := by
  have rounded := units_of_nearest? (magnitude.nearest?_mul Nat.one_pos)
  rw [Nat.mul_one] at rounded
  exact rounded.symm

/-! ## Whole numbers -/

def placeOf (value : Nat) : Nat :=
  min (nearestUnits (value * one) 1) bound

theorem placeOf_mono {value other : Nat} (le : value ≤ other) :
    placeOf value ≤ placeOf other := by
  have rounded := nearestUnits_mono 1 (Nat.mul_le_mul_right one le)
  simp only [placeOf]
  omega

theorem placeOf_eq {value : Nat} (small : value ≤ Nat.pow 2 53) :
    placeOf value = value * one := by
  have top : Nat.pow 2 53 * one < bound := by
    rw [one, bound, Nat.pow_eq, Nat.pow_eq, Nat.pow_eq, ← Nat.pow_add]
    exact Nat.pow_lt_pow_right (by decide) (by omega)
  have below : value * one < bound :=
    Nat.lt_of_le_of_lt (Nat.mul_le_mul_right one small) top
  have exact := nearestUnits_eq ⟨value * one, below, spacing_dvd_of_scaled small⟩
  rw [placeOf, exact]
  exact Nat.min_eq_left (Nat.le_of_lt below)

end Magnitude

namespace Binary64

/-! ## Integers -/

def placeOf (value : Int) : Int :=
  if value < 0 then -Magnitude.placeOf value.natAbs else Magnitude.placeOf value.natAbs

theorem position?_ofInt (value : Int) :
    (ofInt value).position? = some (placeOf value) := by
  simp only [ofInt, Magnitude.ofNat?, Magnitude.nearest?, Magnitude.nearest?.ofUnits?,
    placeOf, Magnitude.placeOf]
  split
  · rename_i below
    simp only [ofMagnitude?, position?, Nat.min_eq_left (Nat.le_of_lt below),
      decide_eq_true_eq]
  · rename_i above
    simp only [ofMagnitude?, position?, Nat.min_eq_right (Nat.le_of_not_lt above),
      decide_eq_true_eq]

theorem placeOf_mono {value other : Int} (le : value ≤ other) :
    placeOf value ≤ placeOf other := by
  have upward : value.natAbs ≤ other.natAbs → _ := Magnitude.placeOf_mono
  have downward : other.natAbs ≤ value.natAbs → _ := Magnitude.placeOf_mono
  simp only [placeOf]
  split <;> split <;> omega

theorem lt_of_placeOf_lt {value other : Int} (before : placeOf value < placeOf other) :
    value < other :=
  Int.not_le.mp fun le => Int.not_le.mpr before (placeOf_mono le)

theorem placeOf_eq {value : Int} (small : value.natAbs ≤ Nat.pow 2 53) :
    placeOf value = value * Magnitude.one := by
  rw [placeOf, Magnitude.placeOf_eq small]
  split
  · rename_i negative
    rw [Int.natCast_mul, Int.ofNat_natAbs_of_nonpos (Int.le_of_lt negative), Int.neg_mul,
      Int.neg_neg]
  · rename_i nonnegative
    rw [Int.natCast_mul, Int.natAbs_of_nonneg (Int.not_lt.mp nonnegative)]

end Binary64

end Criteria
