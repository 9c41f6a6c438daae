import Criteria.Number.Decimal

/-!
The decimal text of a binary number: the fewest digits that read back as the same
number.

A grid is the set of multiples of a power of ten. On the grid of one digit, then of two,
and so on, the two neighbours of the number are tried; the first grid with a neighbour
that reads back gives the answer, and of two such neighbours the nearer one, of two
equally near ones the larger. Seventeen digits always suffice; `nearest?_shortest` does
not need that fact, because the search ends with the exact decimal value.
-/

namespace Criteria

namespace Magnitude

/-- The power of ten just above a positive magnitude,
`10 ^ (lead - 1) ≤ value < 10 ^ lead`. -/
def lead (magnitude : Magnitude) : Int :=
  if one ≤ magnitude.units then (Nat.toDigits 10 (magnitude.units / one)).length
  else 1 - (Nat.toDigits 10 ((one - 1) / magnitude.units)).length

def exactDecimal (magnitude : Magnitude) : Decimal :=
  ⟨magnitude.units * Nat.pow 5 places, -places⟩

def readsBack (magnitude : Magnitude) (decimal : Decimal) : Bool :=
  decimal.nearest? = some magnitude

theorem nearest?_exactDecimal (magnitude : Magnitude) :
    magnitude.exactDecimal.nearest? = some magnitude := by
  by_cases zero : magnitude.units = 0
  · rcases magnitude with ⟨units, representable⟩
    subst zero
    rw [exactDecimal, Nat.zero_mul]
    exact Decimal.nearest?_zero _
  · have nonzero : magnitude.units * Nat.pow 5 places ≠ 0 :=
      Nat.mul_ne_zero zero (Nat.ne_of_gt (Nat.pow_pos (by decide)))
    have large : 2 * places ≤ (magnitude.units * Nat.pow 5 places).log2 := by
      rw [Nat.le_log2 nonzero, Nat.pow_mul, Nat.pow_eq]
      exact Nat.le_trans (Nat.pow_le_pow_left (by decide) places)
        (Nat.le_mul_of_pos_left _ (Nat.pos_of_ne_zero zero))
    have size := places_eq
    have scale :
        magnitude.units * Nat.pow 5 places * one =
        magnitude.units * Nat.pow 10 places := by
      simp only [one, Nat.pow_eq]
      rw [Nat.mul_assoc, ← Nat.mul_pow]
    rw [exactDecimal, Decimal.nearest?_of_places nonzero (by omega) (by omega), scale]
    exact nearest?_mul magnitude (Nat.pow_pos (by decide))

def scaled (magnitude : Magnitude) (exponent : Int) : Nat × Nat :=
  if 0 ≤ exponent then (magnitude.units, one * Nat.pow 10 exponent.toNat)
  else (magnitude.units * Nat.pow 10 (-exponent).toNat, one)

/-- The neighbour on the grid of multiples of `10 ^ exponent` that reads back. -/
def onGrid? (magnitude : Magnitude) (exponent : Int) : Option Decimal :=
  let (numerator, denominator) := magnitude.scaled exponent
  let below : Decimal := ⟨numerator / denominator, exponent⟩
  let above : Decimal := ⟨numerator / denominator + 1, exponent⟩
  let nearer := if 2 * (numerator % denominator) < denominator then below else above
  let farther := if 2 * (numerator % denominator) < denominator then above else below
  [nearer, farther].find? magnitude.readsBack

theorem nearest?_of_onGrid? (magnitude : Magnitude) {exponent : Int} {decimal : Decimal}
    (hit : magnitude.onGrid? exponent = some decimal) :
    decimal.nearest? = some magnitude := by
  simp only [onGrid?] at hit
  have accepted := List.find?_some hit
  exact of_decide_eq_true accepted

/-- The shortest decimal number that reads back as the magnitude. -/
def shortest (magnitude : Magnitude) : Decimal :=
  (firstHit? (magnitude.lead - 1)).getD magnitude.exactDecimal
where
  firstHit? (top : Int) : Option Decimal :=
    (List.range 17).findSome? fun (further : Nat) => magnitude.onGrid? (top - further)

theorem nearest?_shortest (magnitude : Magnitude) :
    magnitude.shortest.nearest? = some magnitude := by
  unfold shortest
  cases found : shortest.firstHit? magnitude (magnitude.lead - 1) with
  | none => exact magnitude.nearest?_exactDecimal
  | some decimal =>
      rcases List.exists_of_findSome?_eq_some found with ⟨_, _, hit⟩
      exact magnitude.nearest?_of_onGrid? hit

end Magnitude

def Binary64.text : Binary64 → List Char
  | .notANumber => "NaN".toList
  | .infinite negative => sign negative ++ "inf".toList
  | .finite negative magnitude =>
      sign negative ++ if magnitude.units = 0 then ['0'] else magnitude.shortest.text
where
  sign (negative : Bool) : List Char := if negative then ['-'] else []

end Criteria
