import Mathlib.Algebra.Ring.Parity
import Mathlib.Algebra.Group.Nat.Even
import Criteria.Proofs.Number.Rounding

/-!
Rounding finds the nearest number.

The distance of a ratio from a count is measured in parts of the denominator, so that it
is a whole number. Rounding to a whole number goes at most half a step, and two counts
are a whole step apart; that settles rounding on one spacing. The numbers of the format
on a narrower spacing are all below the leading power of two of the ratio, which is on
its spacing too and nearer.
-/

namespace Criteria.Magnitude

/-! ## Distances -/

/-- How far a ratio is from a count, in parts of the denominator. -/
def distance (numerator denominator count : Nat) : Nat :=
  ((numerator : Int) - (count * denominator : Nat)).natAbs

/-- The count is nearer to the ratio than the other one, or as near and even. -/
def Preferred (numerator denominator : Nat) (even : Prop) (count other : Nat) : Prop :=
  distance numerator denominator count < distance numerator denominator other ∨
    distance numerator denominator count = distance numerator denominator other ∧ even

theorem Preferred.le {numerator denominator count other : Nat} {even : Prop}
    (preferred : Preferred numerator denominator even count other) :
    distance numerator denominator count ≤ distance numerator denominator other := by
  rcases preferred with nearer | ⟨same, _⟩
  · exact Nat.le_of_lt nearer
  · exact Nat.le_of_eq same

theorem distance_mul (numerator denominator gap count : Nat) :
    distance numerator denominator (count * gap) =
      distance numerator (denominator * gap) count := by
  rw [distance, distance, Nat.mul_assoc, Nat.mul_comm gap]

/-! ## Whole numbers -/

theorem le_distance_add_distance {numerator denominator count other : Nat}
    (different : count ≠ other) :
    denominator ≤ distance numerator denominator count +
      distance numerator denominator other := by
  have step {lower upper : Nat} (less : lower < upper) :
      lower * denominator + denominator ≤ upper * denominator := by
    rw [← Nat.succ_mul]
    exact Nat.mul_le_mul_right denominator less
  simp only [distance]
  rcases Nat.lt_or_gt_of_ne different with less | greater
  · have apart := step less
    omega
  · have apart := step greater
    omega

/-- Rounding to a whole number goes at most half a step, and that far only to an
even number. -/
theorem two_distance_roundHalfEven (numerator : Nat) {denominator : Nat}
    (positive : 0 < denominator) :
    2 * distance numerator denominator (roundHalfEven numerator denominator) <
        denominator ∨
      2 * distance numerator denominator (roundHalfEven numerator denominator) =
        denominator ∧ Even (roundHalfEven numerator denominator) := by
  have parts := Nat.div_add_mod' numerator denominator
  have small := Nat.mod_lt numerator positive
  have above := Nat.add_one_mul (numerator / denominator) denominator
  simp only [distance, roundHalfEven, Nat.even_iff]
  repeat' split
  all_goals omega

theorem preferred_roundHalfEven {numerator denominator other : Nat}
    (positive : 0 < denominator)
    (different : roundHalfEven numerator denominator ≠ other) :
    Preferred numerator denominator (Even (roundHalfEven numerator denominator))
      (roundHalfEven numerator denominator) other := by
  have apart : denominator ≤ _ + distance numerator denominator other :=
    le_distance_add_distance different
  rcases two_distance_roundHalfEven numerator positive with near | ⟨half, even⟩
  · left
    omega
  · rcases Nat.lt_or_ge
      (distance numerator denominator (roundHalfEven numerator denominator))
      (distance numerator denominator other) with nearer | near
    · exact .inl nearer
    · exact .inr ⟨by omega, even⟩

/-! ## Numbers of the format -/

def significand (units : Nat) : Nat :=
  units / spacing units

theorem spacing_nearestUnits (numerator denominator : Nat) :
    spacing (nearestUnits numerator denominator) = spacing (numerator / denominator) ∨
      nearestUnits numerator denominator = 2 ^ ((numerator / denominator).log2 + 1) := by
  have upper : _ ≤ 2 ^ _ := nearestUnits_le numerator denominator
  rcases Nat.lt_or_eq_of_le upper with less | equal
  · left
    have bits : (nearestUnits numerator denominator).log2 =
        (numerator / denominator).log2 := by
      by_cases zero : numerator / denominator = 0
      · rw [zero, Nat.log2_zero] at less ⊢
        have fewer := log2_mono (Nat.le_of_lt_succ less)
        rw [show Nat.log2 1 = 0 by decide] at fewer
        exact Nat.le_zero.mp fewer
      · have lower : 2 ^ _ ≤ _ := le_nearestUnits zero
        have positive := Nat.two_pow_pos (numerator / denominator).log2
        exact (Nat.log2_eq_iff (by omega)).mpr ⟨lower, less⟩
    rw [spacing, bits, spacing]
  · exact .inr equal

theorem even_significand_two_pow (exponent : Nat) :
    Even (significand (2 ^ (exponent + 1))) := by
  have quotient := Nat.pow_div (m := exponent + 1) (n := exponent + 1 - 52) (by omega)
    (show 0 < 2 by decide)
  simp only [significand, spacing, Nat.log2_two_pow, Nat.pow_eq, quotient, Nat.even_pow]
  exact ⟨even_two, by omega⟩

theorem even_significand {numerator denominator : Nat}
    (even : Even
      (roundHalfEven numerator (denominator * spacing (numerator / denominator)))) :
    Even (significand (nearestUnits numerator denominator)) := by
  rcases spacing_nearestUnits numerator denominator with same | power
  · rw [significand, same, nearestUnits, Nat.mul_div_cancel _ (spacing_pos _)]
    exact even
  · rw [power]
    exact even_significand_two_pow _

theorem preferred_of_spacing_dvd {numerator denominator units : Nat}
    (positive : 0 < denominator) (spaced : spacing (numerator / denominator) ∣ units)
    (different : nearestUnits numerator denominator ≠ units) :
    Preferred numerator denominator
      (Even (significand (nearestUnits numerator denominator)))
      (nearestUnits numerator denominator) units := by
  rcases spaced with ⟨steps, rfl⟩
  rw [Nat.mul_comm] at different ⊢
  have stepsDifferent :
      roundHalfEven numerator (denominator * spacing (numerator / denominator)) ≠
      steps := fun same =>
        different (congrArg (· * spacing (numerator / denominator)) same)
  have preferred := preferred_roundHalfEven
    (Nat.mul_pos positive (spacing_pos (numerator / denominator))) stepsDifferent
  rw [Preferred, ← distance_mul, ← distance_mul] at preferred
  exact preferred.imp_right (And.imp_right even_significand)

/-- Rounding finds the nearest number of the format, and the even one of two
equally near. -/
theorem preferred_nearestUnits {numerator denominator units : Nat}
    (positive : 0 < denominator) (spaced : spacing units ∣ units)
    (different : nearestUnits numerator denominator ≠ units) :
    Preferred numerator denominator
      (Even (significand (nearestUnits numerator denominator)))
      (nearestUnits numerator denominator) units := by
  rcases Nat.lt_or_ge units.log2 (numerator / denominator).log2 with fewer | more
  · left
    -- The leading power of two of the ratio lies between it and the number.
    have below : units < 2 ^ (numerator / denominator).log2 :=
      Nat.lt_of_lt_of_le Nat.lt_log2_self (Nat.pow_le_pow_right (by decide) fewer)
    have above : 2 ^ (numerator / denominator).log2 * denominator ≤ numerator := by
      rw [← Nat.le_div_iff_mul_le positive]
      refine Nat.log2_self_le fun zero => ?_
      rw [zero, Nat.log2_zero] at fewer
      exact Nat.not_lt_zero _ fewer
    have beside :
        units * denominator < 2 ^ (numerator / denominator).log2 * denominator :=
      Nat.mul_lt_mul_of_pos_right below positive
    have leading : distance numerator denominator (nearestUnits numerator denominator) ≤
        distance numerator denominator (2 ^ (numerator / denominator).log2) := by
      by_cases equal :
        nearestUnits numerator denominator = 2 ^ (numerator / denominator).log2
      · rw [equal]
      · exact (preferred_of_spacing_dvd positive
          (Dvd.intro_left _ (spacing_mul (Nat.le_refl _))) equal).le
    refine Nat.lt_of_le_of_lt leading ?_
    simp only [distance]
    omega
  · exact preferred_of_spacing_dvd positive
      (Nat.dvd_trans (Nat.pow_dvd_pow 2 (Nat.sub_le_sub_right more 52)) spaced) different

/-! ## Neighbours -/

theorem significand_mul (magnitude : Magnitude) :
    significand magnitude.units * spacing magnitude.units = magnitude.units :=
  Nat.div_mul_cancel magnitude.representable.2

theorem two_spacing_dvd {magnitude : Magnitude}
    (even : Even (significand magnitude.units)) :
    2 * spacing magnitude.units ∣ magnitude.units := by
  have steps := Nat.mul_dvd_mul_right even.two_dvd (spacing magnitude.units)
  rwa [significand_mul] at steps

theorem significand_lt (units : Nat) : significand units < Nat.pow 2 53 := by
  refine (Nat.div_lt_iff_lt_mul (spacing_pos units)).mpr ?_
  simp only [spacing, Nat.pow_eq]
  rw [← Nat.pow_add]
  exact Nat.lt_of_lt_of_le Nat.lt_log2_self (Nat.pow_le_pow_right (by decide) (by omega))

theorem spacing_dvd_next (magnitude : Magnitude) :
    spacing (magnitude.units + spacing magnitude.units) ∣
      magnitude.units + spacing magnitude.units := by
  have next : (significand magnitude.units + 1) * spacing magnitude.units =
      magnitude.units + spacing magnitude.units := by
    rw [Nat.add_one_mul, significand_mul]
  rw [← next]
  exact spacing_dvd_of_scaled (significand_lt magnitude.units)

theorem exists_between {lower upper : Magnitude} (less : lower.units < upper.units)
    (even : Even (significand lower.units)) (even' : Even (significand upper.units)) :
    ∃ middle : Magnitude, lower.units < middle.units ∧ middle.units < upper.units := by
  have gaps : spacing lower.units ∣ spacing upper.units :=
    Nat.pow_dvd_pow 2 (Nat.sub_le_sub_right (log2_mono (Nat.le_of_lt less)) 52)
  have apart : 2 * spacing lower.units ∣ upper.units - lower.units :=
    Nat.dvd_sub ((Nat.mul_dvd_mul_left 2 gaps).trans (two_spacing_dvd even'))
      (two_spacing_dvd even)
  have room := Nat.le_of_dvd (Nat.sub_pos_of_lt less) apart
  have positive := spacing_pos lower.units
  have above : lower.units < lower.units + spacing lower.units := by omega
  have below : lower.units + spacing lower.units < upper.units := by omega
  exact ⟨⟨_, Nat.lt_trans below upper.representable.1, spacing_dvd_next lower⟩,
    above, below⟩

end Criteria.Magnitude
