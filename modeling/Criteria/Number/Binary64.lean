/-!
Binary floating point with 53 significant bits.

Every finite number of the format is a whole multiple of the smallest positive one, 2 ^
-1074, so a magnitude is stored as that multiple: its `units`. A count of units belongs
to the format when it is below the overflow bound and has at most 53 significant bits,
that is, when it is a multiple of the spacing of the numbers around it.

`Magnitude.nearest?` rounds any ratio to the nearest number of the format, and to the
even one of two equally near; every operation here is an exact ratio rounded once.
-/

namespace Criteria

/-! ## Magnitudes -/

namespace Magnitude

/-- The smallest positive number of the format is 2 ^ -places. -/
@[irreducible] def places : Nat := 1074

theorem places_eq : places = 1074 := by
  unfold places
  rfl

def one : Nat := Nat.pow 2 places

/-- The units in 2 ^ 1024, the first power of two that is too large. -/
def bound : Nat := Nat.pow 2 (1024 + places)

/-- The distance between neighbours of the format around a count of units. -/
def spacing (units : Nat) : Nat := Nat.pow 2 (units.log2 - 52)

def Representable (units : Nat) : Prop :=
  units < bound ∧ spacing units ∣ units

instance (units : Nat) : Decidable (Representable units) :=
  inferInstanceAs (Decidable (_ ∧ _))

end Magnitude

structure Magnitude where
  units : Nat
  representable : Magnitude.Representable units
  deriving DecidableEq

namespace Magnitude

/-! ## Rounding -/

/-- The whole number nearest to a ratio, the even one of two equally near. -/
def roundHalfEven (numerator denominator : Nat) : Nat :=
  let below := numerator / denominator
  let rest := numerator % denominator
  if 2 * rest < denominator then below
  else if denominator < 2 * rest then below + 1
  else if below % 2 = 0 then below else below + 1

theorem le_roundHalfEven (numerator denominator : Nat) :
    numerator / denominator ≤ roundHalfEven numerator denominator := by
  simp only [roundHalfEven]
  repeat' split
  all_goals omega

theorem roundHalfEven_le (numerator denominator : Nat) :
    roundHalfEven numerator denominator ≤ numerator / denominator + 1 := by
  simp only [roundHalfEven]
  repeat' split
  all_goals omega

def nearestUnits (numerator denominator : Nat) : Nat :=
  let gap := spacing (numerator / denominator)
  roundHalfEven numerator (denominator * gap) * gap

theorem spacing_dvd_of_scaled {count exponent : Nat} (small : count ≤ Nat.pow 2 53) :
    spacing (count * Nat.pow 2 exponent) ∣ count * Nat.pow 2 exponent := by
  by_cases zero : count = 0
  · simp [zero]
  simp only [spacing, Nat.pow_eq] at small ⊢
  have positive : count * 2 ^ exponent ≠ 0 :=
    Nat.mul_ne_zero zero (Nat.ne_of_gt (Nat.two_pow_pos _))
  by_cases top : count = 2 ^ 53
  · subst top
    rw [← Nat.pow_add, Nat.log2_two_pow]
    exact Nat.pow_dvd_pow 2 (by omega)
  · have small' : count < 2 ^ 53 := Nat.lt_of_le_of_ne small top
    have less : (count * 2 ^ exponent).log2 < 53 + exponent := by
      rw [Nat.log2_lt positive, Nat.pow_add]
      exact Nat.mul_lt_mul_of_pos_right small' (Nat.two_pow_pos exponent)
    exact Nat.dvd_trans (Nat.pow_dvd_pow 2 (by omega)) (Nat.dvd_mul_left _ _)

theorem spacing_dvd_nearestUnits (numerator denominator : Nat) :
    spacing (nearestUnits numerator denominator) ∣
      nearestUnits numerator denominator := by
  have upper := roundHalfEven_le numerator
    (denominator * spacing (numerator / denominator))
  rw [← Nat.div_div_eq_div_mul] at upper
  refine spacing_dvd_of_scaled (Nat.le_trans upper ?_)
  generalize numerator / denominator = whole
  refine Nat.succ_le_of_lt ((Nat.div_lt_iff_lt_mul (Nat.two_pow_pos _)).mpr ?_)
  simp only [Nat.pow_eq]
  rw [← Nat.pow_add]
  exact Nat.lt_of_lt_of_le Nat.lt_log2_self (Nat.pow_le_pow_right (by decide) (by omega))

/-- The number of the format nearest to a ratio of units. None when it would be too
large. -/
def nearest? (numerator denominator : Nat) : Option Magnitude :=
  ofUnits? (nearestUnits numerator denominator)
    (spacing_dvd_nearestUnits numerator denominator)
where
  ofUnits? (units : Nat) (spaced : spacing units ∣ units) : Option Magnitude :=
    if bounded : units < bound then some ⟨units, bounded, spaced⟩ else none

theorem one_pos : 0 < one := by
  rw [one, Nat.pow_eq]
  exact Nat.two_pow_pos places

theorem bound_pos : 0 < bound := by
  rw [bound, Nat.pow_eq]
  exact Nat.two_pow_pos (1024 + places)

def zero : Magnitude :=
  ⟨0, bound_pos, Nat.dvd_zero _⟩

theorem roundHalfEven_mul (whole : Nat) {denominator : Nat} (positive : 0 < denominator) :
    roundHalfEven (whole * denominator) denominator = whole := by
  simp [roundHalfEven, Nat.mul_div_cancel _ positive, positive]

theorem nearest?_mul (magnitude : Magnitude) {denominator : Nat}
    (positive : 0 < denominator) :
    nearest? (magnitude.units * denominator) denominator = some magnitude := by
  rcases magnitude with ⟨units, bounded, ⟨count, multiple⟩⟩
  have same : nearestUnits (units * denominator) denominator = units := by
    have gapPositive : 0 < denominator * spacing units :=
      Nat.mul_pos positive (Nat.two_pow_pos _)
    simp only [nearestUnits, Nat.mul_div_cancel _ positive]
    rw [show units * denominator = count * (denominator * spacing units) by
        rw [← Nat.mul_assoc, Nat.mul_right_comm, Nat.mul_comm count, ← multiple],
      roundHalfEven_mul count gapPositive, Nat.mul_comm, ← multiple]
  simp only [nearest?, same, nearest?.ofUnits?, bounded, dite_true]

def ofNat? (value : Nat) : Option Magnitude :=
  nearest? (value * one) 1

def times? (left right : Magnitude) : Option Magnitude :=
  nearest? (left.units * right.units) one

def over? (left right : Magnitude) : Option Magnitude :=
  nearest? (left.units * one) right.units

end Magnitude

/-! ## Numbers with a sign -/

inductive Binary64 where
  | notANumber
  | infinite (negative : Bool)
  | finite (negative : Bool) (magnitude : Magnitude)
  deriving DecidableEq

namespace Binary64

def isFinite : Binary64 → Bool
  | .finite .. => true
  | _ => false

def ofMagnitude? (negative : Bool) : Option Magnitude → Binary64
  | some magnitude => .finite negative magnitude
  | none => .infinite negative

def ofInt (value : Int) : Binary64 :=
  ofMagnitude? (value < 0) (Magnitude.ofNat? value.natAbs)

/-- Where a number stands on the line, in units. The infinities stand at the overflow
bound, and both zeros at 0. -/
def position? : Binary64 → Option Int
  | .notANumber => none
  | .infinite negative => some (if negative then -Magnitude.bound else Magnitude.bound)
  | .finite negative magnitude =>
      some (if negative then -magnitude.units else magnitude.units)

def order? (left right : Binary64) : Option Ordering :=
  match left.position?, right.position? with
  | some left, some right => some (compare left right)
  | _, _ => none

end Binary64

end Criteria
