import Criteria.Number.Shortest
import Criteria.Text.Blank

/-!
Numbers. A number is a signed or an unsigned integer of 64 bits, or a binary
floating-point number.

Integers of both kinds are compared exactly. As soon as one side is a float, both are
compared as floats, an integer being rounded to the nearest one first.
-/

namespace Criteria

inductive Number where
  | signed (value : Int64)
  | unsigned (value : UInt64)
  | float (value : Binary64)
  deriving DecidableEq

namespace Number

/-! ## Integers -/

def integer? : Number → Option Int
  | .signed value => some value.toInt
  | .unsigned value => some value.toNat
  | .float _ => none

def Holds (value : Int) : Prop :=
  Int64.minValue.toInt ≤ value ∧ value < UInt64.size

instance (value : Int) : Decidable (Holds value) :=
  inferInstanceAs (Decidable (_ ∧ _))

/-- The number of an integer: signed where that kind can hold it, else unsigned. -/
def ofInt (value : Int) : Number :=
  if value ≤ Int64.maxValue.toInt then .signed (Int64.ofInt value)
  else .unsigned (UInt64.ofNat value.toNat)

theorem holds_iff {value : Int} :
    Holds value ↔ -9223372036854775808 ≤ value ∧ value < 18446744073709551616 := by
  simp only [Holds, UInt64.size, Int64.toInt_minValue]
  omega

theorem integer?_ofInt {value : Int} (holds : Holds value) :
    (ofInt value).integer? = some value := by
  rcases holds_iff.mp holds with ⟨lower, upper⟩
  have largest := Int64.toInt_maxValue
  unfold ofInt
  split
  · simp only [integer?, Option.some.injEq]
    exact Int64.toInt_ofInt_of_le (by omega) (by omega)
  · simp only [integer?, Option.some.injEq]
    rw [UInt64.toNat_ofNat_of_lt' (by simp only [UInt64.size]; omega)]
    omega

/-! ## Reading and writing -/

def toFloat : Number → Binary64
  | .signed value => .ofInt value.toInt
  | .unsigned value => .ofInt value.toNat
  | .float value => value

/-- Reads a number, blanks around it allowed: an integer if it is written as one and
fits 64 bits, else a finite float. -/
def read? (text : List Char) : Option Number :=
  let text := Text.trim text
  match (Decimal.readInt? text).filter (Holds ·) with
  | some value => some (ofInt value)
  | none => ((Binary64.read? text).filter Binary64.isFinite).map .float

def text : Number → List Char
  | .signed value => intText value.toInt
  | .unsigned value => Nat.toDigits 10 value.toNat
  | .float value => value.text
where
  intText (value : Int) : List Char :=
    if value < 0 then '-' :: Nat.toDigits 10 value.natAbs
      else Nat.toDigits 10 value.natAbs

/-! ## Order -/

def order? (left right : Number) : Option Ordering :=
  match left.integer?, right.integer? with
  | some left, some right => some (compare left right)
  | _, _ => left.toFloat.order? right.toFloat

def same (left right : Number) : Bool :=
  left.order? right == some .eq

def less (left right : Number) : Bool :=
  left.order? right == some .lt

def lessOrSame (left right : Number) : Bool :=
  left.less right || left.same right

end Number

end Criteria
