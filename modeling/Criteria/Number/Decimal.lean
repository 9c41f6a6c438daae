import Criteria.Number.Binary64
import Criteria.Text.Caseless

/-!
Decimal numerals and the binary number nearest to one.

`Decimal.nearest?` rounds once and exactly, whatever the number of digits and the size
of the exponent. `Binary64.read?` reads a numeral with an optional sign, or the name of
a number that is not finite.
-/

namespace Criteria

structure Decimal where
  coefficient : Nat
  exponent : Int
  deriving DecidableEq, Repr

namespace Decimal

/-! ## Value -/

/-- The magnitude nearest to a decimal number; none if it is too large.

A coefficient is below `2 ^ (log2 + 1)` and `8 ^ n ≤ 10 ^ n`, so the first two cases
settle exponents far outside the format without computing their powers. -/
def nearest? (decimal : Decimal) : Option Magnitude :=
  if decimal.coefficient = 0 then some .zero
  else if 310 < decimal.exponent then none
  else if decimal.coefficient.log2 + 1081 < 3 * -decimal.exponent then some .zero
  else if 0 ≤ decimal.exponent then
    Magnitude.nearest?
      (decimal.coefficient * Nat.pow 10 decimal.exponent.toNat * Magnitude.one) 1
  else Magnitude.nearest? (decimal.coefficient * Magnitude.one)
    (Nat.pow 10 (-decimal.exponent).toNat)

theorem nearest?_zero (exponent : Int) : nearest? ⟨0, exponent⟩ = some .zero :=
  if_pos rfl

theorem nearest?_of_places {coefficient places : Nat} (nonzero : coefficient ≠ 0)
    (positive : 0 < places) (near : 3 * places ≤ coefficient.log2 + 1081) :
    nearest? ⟨coefficient, -places⟩ =
      Magnitude.nearest? (coefficient * Magnitude.one) (Nat.pow 10 places) := by
  unfold nearest?
  rw [if_neg nonzero, if_neg (by simp only; omega), if_neg (by simp only; omega),
    if_neg (by simp only; omega)]
  simp

/-! ## Reading -/

def digitsValue (digits : List Char) : Nat :=
  Nat.ofDigitChars 10 digits 0

def readNat? : List Char → Option Nat
  | '+' :: digits => unsigned? digits
  | digits => unsigned? digits
where
  unsigned? (digits : List Char) : Option Nat :=
    if !digits.isEmpty && digits.all Char.isDigit then some (digitsValue digits) else none

def readInt? : List Char → Option Int
  | '-' :: digits => (readNat?.unsigned? digits).map fun value => -(value : Int)
  | text => (readNat? text).map fun value => (value : Int)

def fraction : List Char → List Char × List Char
  | '.' :: rest => rest.span Char.isDigit
  | rest => ([], rest)

/-- A numeral without a sign: digits, perhaps with a point among them or at an end, and
perhaps an exponent. -/
def read? (text : List Char) : Option Decimal :=
  let (whole, afterWhole) := text.span Char.isDigit
  let (fraction, afterFraction) := fraction afterWhole
  if whole.isEmpty && fraction.isEmpty then none
  else
    let coefficient := digitsValue (whole ++ fraction)
    match afterFraction with
    | [] => some ⟨coefficient, -fraction.length⟩
    | mark :: exponent =>
        if mark = 'e' ∨ mark = 'E' then
          (readInt? exponent).map fun exponent =>
            ⟨coefficient, exponent - fraction.length⟩
        else none

/-! ## Writing -/

/-- All digits in their places, with no exponent. Zeros that end the fraction are left
out, and a whole number has no point. -/
def text (decimal : Decimal) : List Char :=
  if 0 ≤ decimal.exponent then
    Nat.toDigits 10 (decimal.coefficient * Nat.pow 10 decimal.exponent.toNat)
  else
    let places := (-decimal.exponent).toNat
    let whole := Nat.toDigits 10 (decimal.coefficient / Nat.pow 10 places)
    let fraction := Nat.toDigits 10 (decimal.coefficient % Nat.pow 10 places)
    let padded := List.replicate (places - fraction.length) '0' ++ fraction
    match (padded.reverse.dropWhile (· == '0')).reverse with
    | [] => whole
    | shown => whole ++ '.' :: shown

end Decimal

/-! ## Binary numbers -/

/-- Reads a numeral with an optional sign. The names `inf`, `infinity` and `nan` in any
letter case stand for the numbers that are not finite. -/
def Binary64.read? : List Char → Option Binary64
  | '-' :: text => unsigned? true text
  | '+' :: text => unsigned? false text
  | text => unsigned? false text
where
  unsigned? (negative : Bool) (text : List Char) : Option Binary64 :=
    if Text.caseless text "inf".toList || Text.caseless text "infinity".toList then
      some (.infinite negative)
    else if Text.caseless text "nan".toList then some .notANumber
    else (Decimal.read? text).map fun decimal => .ofMagnitude? negative decimal.nearest?

end Criteria
