/-!
Letter case. Only the twenty-six letters of ASCII have two cases here; every other
character is equal to itself alone. The digits of a hexadecimal number may have
either case too.
-/

namespace Criteria.Text

def upper (text : List Char) : List Char :=
  text.map Char.toUpper

def lower (text : List Char) : List Char :=
  text.map Char.toLower

def caseless : List Char → List Char → Bool
  | [], [] => true
  | left :: leftRest, right :: rightRest =>
      left.toUpper == right.toUpper && caseless leftRest rightRest
  | _, _ => false

theorem caseless_iff {left right : List Char} :
    caseless left right ↔ upper left = upper right := by
  induction left generalizing right with
  | nil => cases right <;> simp [caseless, upper]
  | cons character rest induction =>
      cases right with
      | nil => simp [caseless, upper]
      | cons other others =>
          simp only [caseless, Bool.and_eq_true, beq_iff_eq, induction]
          simp [upper]

example : caseless "Not".toList "nOT".toList = true := by decide +kernel

def hexDigit? (character : Char) : Option Nat :=
  if character.isDigit then some (character.toNat - '0'.toNat)
  else if 'a' ≤ character ∧ character ≤ 'f' then some (character.toNat - 'a'.toNat + 10)
  else if 'A' ≤ character ∧ character ≤ 'F' then some (character.toNat - 'A'.toNat + 10)
  else none

end Criteria.Text
