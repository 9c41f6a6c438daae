import Criteria.Proofs.Number.Rounding

/-!
The laws of the order of numbers.

Two integers are compared exactly, and as soon as one side is a float both are compared
where they stand on the line of the floats. So a number takes part in the order with its
place: an integer with its value, any other number with its position on the line.
Integers are in the order of their positions, but different ones can stand on one
position. Such integers merge: a float on that position is the same as each of them,
while they are not the same as each other. Merged integers are all that the order lacks
of a total one.
-/

namespace Criteria

/-! ## Places -/

inductive Place where
  | exact (value : Int)
  | rounded (position : Int)

namespace Place

def position : Place → Int
  | .exact value => Binary64.placeOf value
  | .rounded position => position

def order : Place → Place → Ordering
  | .exact left, .exact right => compare left right
  | left, right => compare left.position right.position

def Merge : Place → Place → Prop
  | .exact left, .exact right =>
      left ≠ right ∧ Binary64.placeOf left = Binary64.placeOf right
  | _, _ => False

variable {left middle right : Place}

theorem order_self (place : Place) : place.order place = .eq := by
  cases place <;> simp [order]

theorem order_swap (left right : Place) : right.order left = (left.order right).swap := by
  cases left <;> cases right <;> simp only [order] <;> exact Std.OrientedCmp.eq_swap

theorem order_eq_iff :
    left.order right = .eq ↔ left.position = right.position ∧ ¬ left.Merge right := by
  cases left <;> cases right <;> simp only [order, position, Merge, Int.compare_eq_eq] <;>
    grind

theorem order_of_position_lt (before : left.position < right.position) :
    left.order right = .lt := by
  cases left <;> cases right <;>
    simp only [order, position, Int.compare_eq_lt] at before ⊢
  · exact Binary64.lt_of_placeOf_lt before
  all_goals exact before

theorem position_le_of_order (before : left.order right = .lt) :
    left.position ≤ right.position := by
  cases left <;> cases right <;>
    simp only [order, position, Int.compare_eq_lt] at before ⊢
  · exact Binary64.placeOf_mono (Int.le_of_lt before)
  all_goals exact Int.le_of_lt before

theorem exact_of_order (before : left.order right = .lt)
    (level : left.position = right.position) :
    ∃ value other, left = .exact value ∧ right = .exact other ∧ value < other := by
  cases left <;> cases right <;>
    simp only [order, position, Int.compare_eq_lt] at before level
  · exact ⟨_, _, rfl, rfl, before⟩
  all_goals omega

theorem order_eq_trans (first : left.order middle = .eq)
    (second : middle.order right = .eq) :
    left.order right = .eq ↔ ¬ left.Merge right := by
  have level := (order_eq_iff.mp first).1.trans (order_eq_iff.mp second).1
  rw [order_eq_iff]
  exact and_iff_right level

theorem order_lt_trans (first : left.order middle = .lt)
    (second : middle.order right = .lt) :
    left.order right = .lt := by
  have low := position_le_of_order first
  have high := position_le_of_order second
  rcases Int.lt_or_eq_of_le (Int.le_trans low high) with before | level
  · exact order_of_position_lt before
  · -- All three stand on one position, so they are integers.
    rcases exact_of_order first (by omega) with ⟨value, other, rfl, rfl, less⟩
    rcases exact_of_order second (by omega) with ⟨_, last, same, rfl, less'⟩
    cases same
    exact Int.compare_eq_lt.mpr (Int.lt_trans less less')

theorem order_lt_of_eq (first : left.order middle = .lt)
    (second : middle.order right = .eq) :
    left.order right = .lt ↔
      ¬ (left.Merge middle ∧ ∃ position, right = .rounded position) := by
  have level := (order_eq_iff.mp second).1
  rcases Int.lt_or_eq_of_le (position_le_of_order first) with before | equal
  · have apart : ¬ left.Merge middle := fun merge => by
      cases left <;> cases middle <;> simp only [Merge, position] at merge before
      omega
    exact iff_of_true (order_of_position_lt (level ▸ before)) fun both => apart both.1
  · rcases exact_of_order first equal with ⟨value, other, rfl, rfl, less⟩
    have merge : (exact value).Merge (exact other) := ⟨Int.ne_of_lt less, equal⟩
    cases right with
    | exact last =>
        cases Int.compare_eq_eq.mp second
        exact iff_of_true first (by simp)
    | rounded position =>
        refine iff_of_false ?_ (by simp [merge])
        rw [order_eq_iff.mpr ⟨equal.trans level, id⟩]
        decide

end Place

namespace Number

/-! ## Numbers -/

def place? (number : Number) : Option Place :=
  match number.integer? with
  | some value => some (.exact value)
  | none => number.toFloat.position?.map .rounded

/-- Two different integers that round to the same float. -/
def Merges (left right : Number) : Prop :=
  left.integer?.isSome ∧ right.integer?.isSome ∧ left.integer? ≠ right.integer? ∧
    left.toFloat.order? right.toFloat = some .eq

theorem exists_place? {number : Number} (isNumber : number.toFloat ≠ .notANumber) :
    ∃ place, number.place? = some place := by
  cases number with
  | signed value => exact ⟨_, rfl⟩
  | unsigned value => exact ⟨_, rfl⟩
  | float value =>
      cases value with
      | notANumber => exact absurd rfl isNumber
      | infinite negative => exact ⟨_, rfl⟩
      | finite negative magnitude => exact ⟨_, rfl⟩

theorem position?_toFloat {number : Number} {place : Place}
    (found : number.place? = some place) :
    number.toFloat.position? = some place.position := by
  cases number with
  | signed value =>
      cases found
      exact Binary64.position?_ofInt value.toInt
  | unsigned value =>
      cases found
      exact Binary64.position?_ofInt value.toNat
  | float value =>
      rcases Option.map_eq_some_iff.mp found with ⟨position, stands, rfl⟩
      exact stands

theorem integer?_of_place? {number : Number} {place : Place}
    (found : number.place? = some place) :
    number.integer? = match place with
      | .exact value => some value
      | .rounded _ => none := by
  cases number with
  | signed value => cases found; rfl
  | unsigned value => cases found; rfl
  | float value => rcases Option.map_eq_some_iff.mp found with ⟨position, _, rfl⟩; rfl

variable {left right : Number} {place other : Place}

theorem order?_toFloat (found : left.place? = some place)
    (found' : right.place? = some other) :
    left.toFloat.order? right.toFloat = some (compare place.position other.position) := by
  rw [Binary64.order?, position?_toFloat found, position?_toFloat found']

theorem order?_eq (found : left.place? = some place)
    (found' : right.place? = some other) :
    left.order? right = some (place.order other) := by
  rw [order?, integer?_of_place? found, integer?_of_place? found',
    order?_toFloat found found']
  cases place <;> cases other <;> rfl

theorem order?_swap (left right : Number) :
    right.order? left = (left.order? right).map Ordering.swap := by
  rw [order?, order?]
  cases left.integer? <;> cases right.integer?
  case some.some value other => exact congrArg some Std.OrientedOrd.eq_swap
  all_goals
    simp only [Binary64.order?]
    cases left.toFloat.position? <;> cases right.toFloat.position?
    case some.some position other => exact congrArg some Std.OrientedOrd.eq_swap
    all_goals rfl

theorem exists_order? (isNumber : left.toFloat ≠ .notANumber)
    (isNumber' : right.toFloat ≠ .notANumber) :
    ∃ order, left.order? right = some order := by
  rcases exists_place? isNumber with ⟨place, found⟩
  rcases exists_place? isNumber' with ⟨other, found'⟩
  exact ⟨place.order other, order?_eq found found'⟩

theorem merges_iff (found : left.place? = some place)
    (found' : right.place? = some other) :
    left.Merges right ↔ place.Merge other := by
  rw [Merges, integer?_of_place? found, integer?_of_place? found',
    order?_toFloat found found']
  cases place <;> cases other <;> simp [Place.Merge, Place.position]

theorem not_merges_of_small {value other : Int} (isInteger : left.integer? = some value)
    (isInteger' : right.integer? = some other) (small : value.natAbs ≤ Nat.pow 2 53)
    (small' : other.natAbs ≤ Nat.pow 2 53) : ¬ left.Merges right := by
  have found : left.place? = some (.exact value) := by rw [place?, isInteger]
  have found' : right.place? = some (.exact other) := by rw [place?, isInteger']
  rw [merges_iff found found']
  rintro ⟨different, level⟩
  rw [Binary64.placeOf_eq small, Binary64.placeOf_eq small'] at level
  have nonzero : (Magnitude.one : Int) ≠ 0 :=
    Int.natCast_ne_zero.mpr (Nat.ne_of_gt Magnitude.one_pos)
  exact different (Int.eq_of_mul_eq_mul_right nonzero level)

theorem same_iff (found : left.place? = some place) (found' : right.place? = some other) :
    left.same right = true ↔ place.order other = .eq := by
  simp [same, order?_eq found found']

theorem less_iff (found : left.place? = some place) (found' : right.place? = some other) :
    left.less right = true ↔ place.order other = .lt := by
  simp [less, order?_eq found found']

theorem integer?_eq_none_iff (found : left.place? = some place) :
    left.integer? = none ↔ ∃ position, place = .rounded position := by
  rw [integer?_of_place? found]
  cases place <;> simp

/-- The laws of the order for three numbers. Equality passes on except from an integer
to one that it merges with. What is less than a number is less than all that are the
same, unless it is an integer that merges with the number and the other one is the float
on which they merge. -/
structure OrderLaws (first second third : Number) : Prop where
  same_self : first.same first = true
  same_comm : first.same second = second.same first
  less_iff_greater : first.less second = true ↔ second.order? first = some .gt
  same_trans : first.same second = true → second.same third = true →
    (first.same third = true ↔ ¬ first.Merges third)
  less_trans : first.less second = true → second.less third = true →
    first.less third = true
  less_of_same : first.less second = true → second.same third = true →
    (first.less third = true ↔ ¬ (first.Merges second ∧ third.integer? = none))
  apart : ∀ value other, first.integer? = some value → second.integer? = some other →
    value.natAbs ≤ Nat.pow 2 53 → other.natAbs ≤ Nat.pow 2 53 → ¬ first.Merges second

theorem orderLaws {first second third : Number} (isNumber : first.toFloat ≠ .notANumber)
    (isNumber' : second.toFloat ≠ .notANumber)
    (isNumber'' : third.toFloat ≠ .notANumber) :
    OrderLaws first second third := by
  rcases exists_place? isNumber with ⟨place, found⟩
  rcases exists_place? isNumber' with ⟨place', found'⟩
  rcases exists_place? isNumber'' with ⟨place'', found''⟩
  constructor
  case same_self => exact (same_iff found found).mpr place.order_self
  case same_comm =>
    rw [Bool.eq_iff_iff, same_iff found found', same_iff found' found,
      place.order_swap place']
    cases place.order place' <;> decide
  case less_iff_greater =>
    rw [less_iff found found', order?_eq found' found, place.order_swap place']
    cases place.order place' <;> decide
  case same_trans =>
    rw [same_iff found found', same_iff found' found'', same_iff found found'',
      merges_iff found found'']
    exact Place.order_eq_trans
  case less_trans =>
    rw [less_iff found found', less_iff found' found'', less_iff found found'']
    exact Place.order_lt_trans
  case less_of_same =>
    rw [less_iff found found', same_iff found' found'', less_iff found found'',
      merges_iff found found', integer?_eq_none_iff found'']
    exact Place.order_lt_of_eq
  case apart => exact fun value other => not_merges_of_small

theorem orderLaws_of_merged :
    (signed 9007199254740992).toFloat ≠ .notANumber ∧
      (unsigned 9007199254740993).toFloat ≠ .notANumber ∧
      (float (.ofInt 9007199254740992)).toFloat ≠ .notANumber ∧
      OrderLaws (signed 9007199254740992) (unsigned 9007199254740993)
        (float (.ofInt 9007199254740992)) := by
  have isNumber : (signed 9007199254740992).toFloat ≠ .notANumber := by decide +kernel
  have isNumber' : (unsigned 9007199254740993).toFloat ≠ .notANumber := by decide +kernel
  have isNumber'' : (float (.ofInt 9007199254740992)).toFloat ≠
      .notANumber := by decide +kernel
  exact ⟨isNumber, isNumber', isNumber'', orderLaws isNumber isNumber' isNumber''⟩

/-- Neither equality nor the strict order passes on across a float on which two
integers merge. -/
theorem same_not_trans_across_float :
    (signed 9007199254740992).same (float (.ofInt 9007199254740992)) = true ∧
      (float (.ofInt 9007199254740992)).same (signed 9007199254740993) = true ∧
      (signed 9007199254740992).same (signed 9007199254740993) = false ∧
      (signed 9007199254740992).less (signed 9007199254740993) = true ∧
      (signed 9007199254740993).same (float (.ofInt 9007199254740992)) = true ∧
      (signed 9007199254740992).less (float (.ofInt 9007199254740992)) = false := by
  decide +kernel

end Number

end Criteria
