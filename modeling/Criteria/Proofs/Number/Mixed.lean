import Criteria.Value.Json
import Criteria.Proofs.Number.Exact

/-!
Integers among floats.

An integer is compared with a float as the float nearest to it. That can make different
numbers equal, but it puts none on the wrong side of the other: a float between the
integer and the one it is rounded to would be nearer.
-/

namespace Criteria.Number

variable {integer : Number} {value : Int} {float : Binary64}

theorem toFloat_of_integer? (isInteger : integer.integer? = some value) :
    integer.toFloat = .ofInt value := by
  cases integer <;> cases isInteger <;> rfl

theorem holds_of_integer? (isInteger : integer.integer? = some value) : Holds value := by
  cases integer with
  | signed kept => exact Option.some.inj isInteger ▸ holds_signed kept
  | unsigned kept => exact Option.some.inj isInteger ▸ holds_unsigned kept
  | float kept => cases isInteger

theorem small_of_integer? (isInteger : integer.integer? = some value) :
    value.natAbs ≤ Nat.pow 2 64 := by
  have holds := holds_iff.mp (holds_of_integer? isInteger)
  rw [show Nat.pow 2 64 = 18446744073709551616 by decide]
  omega

/-- How an integer compares with a finite float. The order is never against that of
the exact values, and the two are the same exactly when the float is the nearest one
to the integer. -/
structure MixedOrder (integer : Number) (value : Int) (float : Binary64) : Prop where
  comparable : ∃ order, integer.order? (.float float) = some order
  less : integer.order? (.float float) = some .lt → value < float.toRat
  greater : integer.order? (.float float) = some .gt → float.toRat < value
  same_iff : integer.order? (.float float) = some .eq ↔ float.IsNearest value
  reversed :
    (Number.float float).order? integer =
      (integer.order? (.float float)).map Ordering.swap
  exact_of_small : value.natAbs ≤ Nat.pow 2 53 →
    integer.order? (.float float) = some (compare (value : ℚ) float.toRat)

theorem mixedOrder (isInteger : integer.integer? = some value)
    (isFinite : float.isFinite = true) : MixedOrder integer value float := by
  have nearest := Binary64.isNearest_ofInt (small_of_integer? isInteger)
  have order : integer.order? (.float float) =
      some (compare (Binary64.ofInt value).toRat float.toRat) := by
    rw [order?, isInteger, toFloat_of_integer? isInteger]
    exact Binary64.order?_of_isFinite nearest.isFinite isFinite
  have order' : (Number.float float).order? integer =
      some (compare float.toRat (Binary64.ofInt value).toRat) := by
    rw [order?, isInteger, toFloat_of_integer? isInteger]
    exact Binary64.order?_of_isFinite isFinite nearest.isFinite
  constructor
  case comparable => exact ⟨_, order⟩
  case less =>
    rw [order, Option.some_inj, compare_lt_iff_lt]
    exact nearest.lt_of_lt isFinite
  case greater =>
    rw [order, Option.some_inj, compare_gt_iff_gt]
    exact nearest.gt_of_gt isFinite
  case same_iff =>
    rw [order, Option.some_inj, compare_eq_iff_eq]
    exact (Binary64.isNearest_iff nearest isFinite).symm
  case reversed =>
    rw [order, order', Option.map_some, ← Std.OrientedCmp.eq_swap]
  case exact_of_small =>
    intro small
    rw [order, Binary64.toRat_ofInt small]

theorem mixedOrder_of_tie :
    (unsigned 9007199254740993).integer? = some 9007199254740993 ∧
      (Binary64.ofInt 9007199254740992).isFinite = true ∧
      MixedOrder (unsigned 9007199254740993) 9007199254740993
        (.ofInt 9007199254740992) := by
  have isInteger :
      (unsigned 9007199254740993).integer? = some 9007199254740993 := by decide
  have isFinite : (Binary64.ofInt 9007199254740992).isFinite = true := by decide +kernel
  exact ⟨isInteger, isFinite, mixedOrder isInteger isFinite⟩

end Criteria.Number
