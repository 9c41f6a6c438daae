import Criteria.Json.Token
import Criteria.Number.Basic

/-!
The numbers of JSON: integers of 64 bits and finite floats.

A number written without fraction and exponent is an integer if it can be held as one.
Any other number becomes a float: of its digits as many are kept, from the left, as make
an integer of 64 bits, and that integer is scaled by a power of ten in floating point.
The result can differ from the nearest float in the last bit.
-/

namespace Criteria.Json

inductive Numeral where
  | integer (value : Int) (holds : Number.Holds value)
  | float (negative : Bool) (magnitude : Magnitude)
  deriving DecidableEq

namespace Numeral

/-- Takes digits into a significand as long as the result fits 64 bits. Gives the digits
that were not taken, too. -/
def takeDigits (significand : Nat) : List Char → Nat × List Char
  | [] => (significand, [])
  | digit :: rest =>
      let next := 10 * significand + (digit.toNat - '0'.toNat)
      if next < UInt64.size then takeDigits next rest else (significand, digit :: rest)

def powerOfTen? (exponent : Nat) : Option Magnitude :=
  Decimal.nearest? ⟨1, exponent⟩

/-- The largest exponent whose power of ten is finite. -/
def scaleLimit : Nat := 308

/-- A significand times a power of ten, rounded after each step. None if the result is too
large. -/
def scale? (significand : Nat) (exponent : Int) : Option Magnitude := do
  let start ← Magnitude.ofNat? significand
  if significand = 0 then return .zero
  else if 0 ≤ exponent then
    if exponent ≤ scaleLimit then start.times? (← powerOfTen? exponent.toNat) else none
  else if -exponent ≤ scaleLimit then start.over? (← powerOfTen? (-exponent).toNat)
  else if -exponent ≤ 2 * scaleLimit then do
    let scaled ← start.over? (← powerOfTen? scaleLimit)
    scaled.over? (← powerOfTen? ((-exponent).toNat - scaleLimit))
  else return .zero

def ofText? (text : NumberText) : Option Numeral :=
  let (wholePart, dropped) := takeDigits 0 text.whole
  let integer : Int := if text.negative then -wholePart else wholePart
  if exact : dropped = [] ∧ text.fraction = none ∧ text.exponent = none ∧
      Number.Holds integer ∧ ¬(text.negative = true ∧ wholePart = 0) then
    some (.integer integer exact.2.2.2.1)
  else
    let fraction := text.fraction.getD []
    let (significand, ignored) := takeDigits wholePart fraction
    let places : Int := dropped.length - (fraction.length - ignored.length : Nat)
    (scale? significand (places + text.exponent.getD 0)).map (.float text.negative)

end Numeral

end Criteria.Json
