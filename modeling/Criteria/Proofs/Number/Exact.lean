import Mathlib.Algebra.Order.Field.Basic
import Mathlib.Algebra.Order.Field.Rat
import Mathlib.Tactic.FieldSimp
import Mathlib.Tactic.Linarith
import Criteria.Proofs.Number.Nearest

/-!
The exact values of floats.

A finite number stands for a rational, and of all finite numbers at most one value is
the nearest to a given rational: two equally near ones with even significands would be
neighbours, and between them lies a third number. Rounding a ratio, and so an integer,
gives the nearest number; finite numbers are in the order of their values.
-/

namespace Criteria.Binary64

/-! ## Exact values -/

def toRat : Binary64 → ℚ
  | .finite true magnitude => -(magnitude.units / Magnitude.one)
  | .finite false magnitude => magnitude.units / Magnitude.one
  | _ => 0

def significand : Binary64 → Nat
  | .finite _ magnitude => Magnitude.significand magnitude.units
  | _ => 0

/-- The finite number nearest to an exact value. Of two numbers equally near it is the
one with the even significand. -/
structure IsNearest (value : ℚ) (number : Binary64) : Prop where
  isFinite : number.isFinite = true
  closest : ∀ other : Binary64, other.isFinite = true →
    |value - number.toRat| ≤ |value - other.toRat|
  even_of_tie : ∀ other : Binary64, other.isFinite = true → other.toRat ≠ number.toRat →
    |value - number.toRat| = |value - other.toRat| → Even number.significand

theorem scale_pos : 0 < (Magnitude.one : ℚ) :=
  Nat.cast_pos.mpr Magnitude.one_pos

theorem toRat_lt_iff {left right : Magnitude} :
    (finite false left).toRat < (finite false right).toRat ↔
      left.units < right.units := by
  simp only [toRat, div_lt_div_iff_of_pos_right scale_pos, Nat.cast_lt]

theorem toRat_nonneg (magnitude : Magnitude) : 0 ≤ (finite false magnitude).toRat :=
  div_nonneg (Nat.cast_nonneg _) scale_pos.le

theorem toRat_negative (magnitude : Magnitude) :
    (finite true magnitude).toRat = -(finite false magnitude).toRat :=
  rfl

theorem toRat_zero : (finite false .zero).toRat = 0 := by
  simp [toRat, Magnitude.zero]

theorem exists_magnitude {number : Binary64} (isFinite : number.isFinite = true) :
    ∃ magnitude : Magnitude, |number.toRat| = (finite false magnitude).toRat ∧
      number.significand = Magnitude.significand magnitude.units := by
  match number with
  | finite false magnitude =>
      exact ⟨magnitude, abs_of_nonneg (toRat_nonneg magnitude), rfl⟩
  | finite true magnitude =>
      refine ⟨magnitude, ?_, rfl⟩
      rw [toRat_negative, abs_neg, abs_of_nonneg (toRat_nonneg magnitude)]

theorem exists_between {left right : Binary64} (isFinite : left.isFinite = true)
    (isFinite' : right.isFinite = true) (even : Even left.significand)
    (even' : Even right.significand) (less : left.toRat < right.toRat) :
    ∃ middle : Binary64, middle.isFinite = true ∧ left.toRat < middle.toRat ∧
      middle.toRat < right.toRat := by
  rcases exists_magnitude isFinite with ⟨low, lowValue, lowSignificand⟩
  rcases exists_magnitude isFinite' with ⟨high, highValue, highSignificand⟩
  rw [lowSignificand] at even
  rw [highSignificand] at even'
  rcases le_or_gt 0 left.toRat with nonneg | negative
  · rw [abs_of_nonneg nonneg] at lowValue
    rw [abs_of_nonneg (nonneg.trans less.le)] at highValue
    rw [lowValue, highValue, toRat_lt_iff] at less
    rcases Magnitude.exists_between less even even' with ⟨middle, above, below⟩
    rw [lowValue, highValue]
    exact ⟨finite false middle, rfl, toRat_lt_iff.mpr above, toRat_lt_iff.mpr below⟩
  · rcases le_or_gt right.toRat 0 with nonpos | positive
    · rw [abs_of_nonpos negative.le, neg_eq_iff_eq_neg] at lowValue
      rw [abs_of_nonpos nonpos, neg_eq_iff_eq_neg] at highValue
      rw [lowValue, highValue, neg_lt_neg_iff, toRat_lt_iff] at less
      rcases Magnitude.exists_between less even' even with ⟨middle, above, below⟩
      rw [lowValue, highValue]
      exact ⟨finite true middle, rfl, neg_lt_neg (toRat_lt_iff.mpr below),
        neg_lt_neg (toRat_lt_iff.mpr above)⟩
    · exact ⟨finite false .zero, rfl, by rwa [toRat_zero], by rwa [toRat_zero]⟩

theorem IsNearest.unique {value : ℚ} {number other : Binary64}
    (nearest : IsNearest value number) (nearest' : IsNearest value other) :
    number.toRat = other.toRat := by
  wlog less : number.toRat < other.toRat generalizing number other
  · rcases lt_or_eq_of_le (not_lt.mp less) with greater | same
    · exact (this nearest' nearest greater).symm
    · exact same.symm
  have level : |value - number.toRat| = |value - other.toRat| :=
    le_antisymm (nearest.closest other nearest'.isFinite)
      (nearest'.closest number nearest.isFinite)
  have even := nearest.even_of_tie other nearest'.isFinite less.ne' level
  have even' := nearest'.even_of_tie number nearest.isFinite less.ne level.symm
  rcases exists_between nearest.isFinite nearest'.isFinite even even' less with
    ⟨middle, isFinite, above, below⟩
  have halfway : value - number.toRat = other.toRat - value := by
    rcases abs_eq_abs.mp level with same | opposite <;> linarith
  have nearer : |value - middle.toRat| < |value - number.toRat| := by
    rw [abs_of_pos (a := value - number.toRat) (by linarith)]
    exact abs_lt.mpr ⟨by linarith, by linarith⟩
  exact absurd nearer (not_lt.mpr (nearest.closest middle isFinite))

/-! ## Rounding -/

theorem isNearest_of_magnitudes {value : ℚ} (nonneg : 0 ≤ value) {magnitude : Magnitude}
    (chosen : ∀ other : Magnitude, magnitude.units ≠ other.units →
      |value - (finite false magnitude).toRat| < |value - (finite false other).toRat| ∨
        |value - (finite false magnitude).toRat| = |value - (finite false other).toRat| ∧
          Even (Magnitude.significand magnitude.units)) :
    IsNearest value (finite false magnitude) := by
  have least (other : Magnitude) :
      |value - (finite false magnitude).toRat| ≤
        |value - (finite false other).toRat| := by
    by_cases same : magnitude.units = other.units
    · rw [toRat, toRat, same]
    · rcases chosen other same with nearer | ⟨level, _⟩
      · exact nearer.le
      · exact level.le
  have beyondZero {other : Binary64} (negative : other.toRat < 0) :
      |value - (finite false magnitude).toRat| < |value - other.toRat| := by
    have zero := least .zero
    rw [toRat_zero, sub_zero, abs_of_nonneg nonneg] at zero
    rw [abs_of_pos (a := value - other.toRat) (by linarith)]
    linarith
  refine ⟨rfl, fun other isFinite => ?_, fun other isFinite different level => ?_⟩
  all_goals
    rcases exists_magnitude isFinite with ⟨absolute, isAbsolute, _⟩
    rcases lt_or_ge other.toRat 0 with negative | positive
  · exact (beyondZero negative).le
  · rw [abs_of_nonneg positive] at isAbsolute
    rw [isAbsolute]
    exact least absolute
  · exact absurd level (beyondZero negative).ne
  · rw [abs_of_nonneg positive] at isAbsolute
    rw [isAbsolute] at different level
    have apart : magnitude.units ≠ absolute.units := by
      intro same
      rw [toRat, toRat, same] at different
      exact different rfl
    rcases chosen absolute apart with nearer | ⟨_, even⟩
    · exact absurd level nearer.ne
    · exact even

theorem abs_sub_eq {numerator denominator : Nat} (positive : 0 < denominator)
    (magnitude : Magnitude) :
    |(numerator : ℚ) / denominator / Magnitude.one - (finite false magnitude).toRat| =
      Magnitude.distance numerator denominator magnitude.units /
        (denominator * Magnitude.one) := by
  have nonzero : (denominator : ℚ) ≠ 0 := Nat.cast_ne_zero.mpr positive.ne'
  have oneNonzero := scale_pos.ne'
  have common :
      (numerator : ℚ) / denominator / Magnitude.one - magnitude.units / Magnitude.one =
      (numerator - magnitude.units * denominator) / (denominator * Magnitude.one) := by
    field_simp
  rw [toRat, common, abs_div, abs_of_pos (mul_pos (Nat.cast_pos.mpr positive) scale_pos),
    Magnitude.distance, Nat.cast_natAbs]
  push_cast
  rfl

theorem isNearest_of_nearest? {numerator denominator : Nat} {magnitude : Magnitude}
    (positive : 0 < denominator)
    (found : Magnitude.nearest? numerator denominator = some magnitude) :
    IsNearest (numerator / denominator / Magnitude.one) (finite false magnitude) := by
  have scale : (0 : ℚ) < denominator * Magnitude.one :=
    mul_pos (Nat.cast_pos.mpr positive) scale_pos
  have isRounded := Magnitude.units_of_nearest? found
  refine isNearest_of_magnitudes (by positivity) fun other different => ?_
  rw [abs_sub_eq positive, abs_sub_eq positive, div_lt_div_iff_of_pos_right scale,
    div_left_inj' scale.ne', Nat.cast_lt, Nat.cast_inj]
  rw [isRounded] at different ⊢
  exact Magnitude.preferred_nearestUnits positive other.representable.2 different

/-! ## Signs -/

def neg : Binary64 → Binary64
  | .notANumber => .notANumber
  | .infinite negative => .infinite (!negative)
  | .finite negative magnitude => .finite (!negative) magnitude

theorem isFinite_neg (number : Binary64) : number.neg.isFinite = number.isFinite := by
  cases number <;> rfl

theorem significand_neg (number : Binary64) :
    number.neg.significand = number.significand := by
  cases number <;> rfl

theorem toRat_neg (number : Binary64) : number.neg.toRat = -number.toRat := by
  match number with
  | .notANumber | .infinite _ => exact neg_zero.symm
  | .finite false magnitude => rfl
  | .finite true magnitude => exact (neg_neg (finite false magnitude).toRat).symm

theorem IsNearest.neg {value : ℚ} {number : Binary64} (nearest : IsNearest value number) :
    IsNearest (-value) number.neg := by
  have distance (other : Binary64) :
      |-value - other.toRat| = |value - other.neg.toRat| := by
    rw [toRat_neg, ← abs_neg, neg_sub', neg_neg]
  have negTwice : number.neg.neg.toRat = number.toRat := by
    rw [toRat_neg, toRat_neg, neg_neg]
  refine ⟨(isFinite_neg number).trans nearest.isFinite, fun other isFinite => ?_,
    fun other isFinite different level => ?_⟩
  · rw [distance, distance, negTwice]
    exact nearest.closest other.neg ((isFinite_neg other).trans isFinite)
  · rw [distance, distance, negTwice] at level
    rw [significand_neg]
    refine nearest.even_of_tie other.neg ((isFinite_neg other).trans isFinite) ?_ level
    intro same
    rw [toRat_neg, neg_eq_iff_eq_neg, ← toRat_neg] at same
    exact different same

theorem IsNearest.congr {value : ℚ} {number other : Binary64}
    (nearest : IsNearest value number) (isFinite : other.isFinite = true)
    (same : number.toRat = other.toRat) :
    IsNearest value other := by
  rcases exists_magnitude nearest.isFinite with ⟨magnitude, isMagnitude, isSignificand⟩
  rcases exists_magnitude isFinite with ⟨magnitude', isMagnitude', isSignificand'⟩
  have level : magnitude.units = magnitude'.units := by
    have values := isMagnitude.symm.trans ((congrArg abs same).trans isMagnitude')
    simp only [toRat, div_left_inj' scale_pos.ne', Nat.cast_inj] at values
    exact values
  refine ⟨isFinite, ?_, ?_⟩
  · rw [← same]
    exact nearest.closest
  · rw [← same, isSignificand', ← level, ← isSignificand]
    exact nearest.even_of_tie

theorem isNearest_iff {value : ℚ} {number other : Binary64}
    (nearest : IsNearest value number) (isFinite : other.isFinite = true) :
    IsNearest value other ↔ number.toRat = other.toRat :=
  ⟨nearest.unique, nearest.congr isFinite⟩

theorem IsNearest.lt_of_lt {value : ℚ} {number other : Binary64}
    (nearest : IsNearest value number) (isFinite : other.isFinite = true)
    (less : number.toRat < other.toRat) :
    value < other.toRat := by
  by_contra beyond
  rw [not_lt] at beyond
  have closest := nearest.closest other isFinite
  rw [abs_of_pos (sub_pos.mpr (less.trans_le beyond)),
    abs_of_nonneg (sub_nonneg.mpr beyond)] at closest
  linarith

theorem IsNearest.gt_of_gt {value : ℚ} {number other : Binary64}
    (nearest : IsNearest value number) (isFinite : other.isFinite = true)
    (greater : other.toRat < number.toRat) :
    other.toRat < value := by
  have opposite : number.neg.toRat < other.neg.toRat → -value < other.neg.toRat :=
    nearest.neg.lt_of_lt ((isFinite_neg other).trans isFinite)
  rw [toRat_neg, toRat_neg, neg_lt_neg_iff, neg_lt_neg_iff] at opposite
  exact opposite greater

/-! ## Integers -/

theorem exists_ofNat? {value : Nat} (small : value ≤ Nat.pow 2 64) :
    ∃ magnitude, Magnitude.ofNat? value = some magnitude := by
  have below : Nat.pow 2 64 * Magnitude.one < Magnitude.bound := by
    rw [Magnitude.one, Magnitude.bound, Nat.pow_eq, Nat.pow_eq, Nat.pow_eq, ← Nat.pow_add]
    exact Nat.pow_lt_pow_right (by decide) (by omega)
  have spaced : Magnitude.spacing (1 * Nat.pow 2 (64 + Magnitude.places)) ∣ _ :=
    Magnitude.spacing_dvd_of_scaled (by decide)
  rw [Nat.one_mul, Nat.pow_eq, Nat.pow_add] at spaced
  have top := Magnitude.nearestUnits_eq ⟨Nat.pow 2 64 * Magnitude.one, below, spaced⟩
  have rounded := Magnitude.nearestUnits_mono 1 (Nat.mul_le_mul_right Magnitude.one small)
  have bounded := Nat.lt_of_le_of_lt (rounded.trans top.le) below
  exact ⟨_, dif_pos bounded⟩

theorem isNearest_ofInt {value : Int} (small : value.natAbs ≤ Nat.pow 2 64) :
    IsNearest value (ofInt value) := by
  rcases exists_ofNat? small with ⟨magnitude, found⟩
  have nearest := isNearest_of_nearest? Nat.one_pos found
  rw [Nat.cast_mul, Nat.cast_one, div_one, mul_div_cancel_right₀ _ scale_pos.ne',
    Nat.cast_natAbs] at nearest
  rw [ofInt, found, ofMagnitude?]
  by_cases negative : value < 0
  · rw [decide_eq_true negative]
    rw [abs_of_neg negative, Int.cast_neg] at nearest
    have opposite := nearest.neg
    rwa [neg_neg] at opposite
  · rw [decide_eq_false negative]
    rwa [abs_of_nonneg (not_lt.mp negative)] at nearest

/-! ## Order -/

theorem toRat_eq {number : Binary64} {position : Int} (isFinite : number.isFinite = true)
    (found : number.position? = some position) :
    number.toRat = position / Magnitude.one := by
  match number with
  | .finite false magnitude =>
      cases found
      simp [toRat]
  | .finite true magnitude =>
      cases found
      simp [toRat, neg_div]

theorem order?_of_isFinite {left right : Binary64} (isFinite : left.isFinite = true)
    (isFinite' : right.isFinite = true) :
    left.order? right = some (compare left.toRat right.toRat) := by
  have found {number : Binary64} (isFinite : number.isFinite = true) :
      ∃ position, number.position? = some position := by
    match number with
    | .finite negative magnitude => exact ⟨_, rfl⟩
  rcases found isFinite with ⟨position, isPosition⟩
  rcases found isFinite' with ⟨position', isPosition'⟩
  have increasing : StrictMono fun units : Int => (units : ℚ) / Magnitude.one :=
    fun _ _ less => (div_lt_div_iff_of_pos_right scale_pos).mpr (Int.cast_lt.mpr less)
  have same := increasing.cmp_map_eq position position'
  rw [cmp_eq_compare, cmp_eq_compare] at same
  rw [order?, isPosition, isPosition', toRat_eq isFinite isPosition,
    toRat_eq isFinite' isPosition', same]

theorem toRat_ofInt {value : Int} (small : value.natAbs ≤ Nat.pow 2 53) :
    (ofInt value).toRat = value := by
  have isFinite := (isNearest_ofInt (small.trans (by decide))).isFinite
  rw [toRat_eq isFinite (position?_ofInt value), placeOf_eq small, Int.cast_mul,
    Int.cast_natCast, mul_div_cancel_right₀ _ scale_pos.ne']

end Criteria.Binary64
