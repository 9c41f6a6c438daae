import Criteria.Proofs.Evaluator.Comparison
import Criteria.Proofs.Number.Integer

/-!
Comparisons of integers.

An entry of the object can be an integer of either kind or a text with its digits, and
the literal can be bare or quoted. Equality compares a text with the literal as texts,
and order compares both as numbers; for the digits of integers the two agree.
-/

namespace Criteria

open Number (Holds)
open Number.text (intText)
open Text (quote)

/-! ## Relations -/

inductive Relation where
  | equal
  | unequal
  | less
  | lessOrEqual
  | greater
  | greaterOrEqual
  deriving DecidableEq, Repr

namespace Relation

def symbol : Relation → List Char
  | .equal => "=".toList
  | .unequal => "!=".toList
  | .less => "<".toList
  | .lessOrEqual => "<=".toList
  | .greater => ">".toList
  | .greaterOrEqual => ">=".toList

def relates : Relation → Int → Int → Bool
  | .equal, left, right => left = right
  | .unequal, left, right => left ≠ right
  | .less, left, right => left < right
  | .lessOrEqual, left, right => left ≤ right
  | .greater, left, right => left > right
  | .greaterOrEqual, left, right => left ≥ right

variable {m : Type → Type} [Monad m]

def operator : Relation → Operator m
  | .equal => .equals false
  | .unequal => .equals true
  | .less => .ordered [.lt]
  | .lessOrEqual => .ordered [.lt, .eq]
  | .greater => .ordered [.gt]
  | .greaterOrEqual => .ordered [.gt, .eq]

theorem symbol?_symbol (relation : Relation) :
    (Operator.standard : OperatorTable m).symbol? relation.symbol =
      some relation.operator := by
  cases relation <;> rfl

end Relation

/-! ## Integers in objects -/

/-- The value is the integer, as a number of either kind or as its digits. -/
inductive Value.IsInteger (value : Int) : Value → Prop
  | number {number : Number} (isInteger : number.integer? = some value) :
      IsInteger value (.number number)
  | digits : IsInteger value (.string (String.ofList (intText value)))

namespace Value.IsInteger

variable {value other : Int} {stored : Value}

theorem equalsLiteral_eq (isInteger : stored.IsInteger value) (holds : Holds other) :
    Value.equalsLiteral (some stored) (String.ofList (intText other)) =
      decide (value = other) := by
  cases isInteger with
  | number isInteger =>
      have compared := Number.order?_of_integer? isInteger (Number.integer?_ofInt holds)
      rw [Value.equalsLiteral, String.toList_ofList, Number.read?_intText holds,
        Option.any_some, Number.same, compared, Bool.eq_iff_iff]
      simp
  | digits =>
      have injective : String.ofList (intText value) = String.ofList (intText other) ↔
          value = other := by
        rw [String.ofList_inj]
        exact ⟨Number.intText_injective, congrArg intText⟩
      rw [Bool.eq_iff_iff]
      simp [Value.equalsLiteral, Value.literal?, injective]

theorem orderLiteral?_eq (isInteger : stored.IsInteger value) (holds : Holds value)
    (holds' : Holds other) :
    Value.orderLiteral? (some stored) (String.ofList (intText other)) =
      some (compare value other) := by
  have isInteger' := Number.integer?_ofInt holds'
  cases isInteger with
  | number isInteger =>
      simp only [Value.orderLiteral?, String.toList_ofList, Number.read?_intText holds',
        Option.bind_some, Number.order?_of_integer? isInteger isInteger']
  | digits =>
      simp only [Value.orderLiteral?, String.toList_ofList, Number.read?_intText holds,
        Number.read?_intText holds',
        Number.order?_of_integer? (Number.integer?_ofInt holds) isInteger']

end Value.IsInteger

theorem Relation.contains_compare (value other : Int) :
    [Ordering.lt].contains (compare value other) = Relation.less.relates value other ∧
      [Ordering.lt, .eq].contains (compare value other) =
        Relation.lessOrEqual.relates value other ∧
      [Ordering.gt].contains (compare value other) =
        Relation.greater.relates value other ∧
      [Ordering.gt, .eq].contains (compare value other) =
        Relation.greaterOrEqual.relates value other := by
  rcases Int.lt_trichotomy value other with before | rfl | behind
  · rw [Int.compare_eq_lt.mpr before]
    simp [relates]
    omega
  · simp [relates]
  · rw [Int.compare_eq_gt.mpr behind]
    simp [relates]
    omega

theorem Relation.operator_eq {m : Type → Type} [Monad m] (relation : Relation)
    {input : Operator.Input} {value other : Int} {stored : Value}
    (isInteger : stored.IsInteger value) (holds : Holds value) (holds' : Holds other)
    (isValue : input.value = some stored)
    (isLiteral : input.literal = String.ofList (intText other)) :
    (relation.operator : Operator m) input = pure (relation.relates value other) := by
  have equality := isInteger.equalsLiteral_eq holds'
  have order := isInteger.orderLiteral?_eq holds holds'
  rcases contains_compare value other with ⟨less, lessOrEqual, greater, greaterOrEqual⟩
  cases relation <;>
    simp only [operator, Operator.equals, Operator.ordered, isValue, isLiteral, equality,
      order, Option.any_some, less, lessOrEqual, greater, greaterOrEqual]
  case equal => rfl
  case unequal => simp [relates]

/-- A comparison of integers is decided as the integers are, over the whole range of
both kinds. -/
theorem evaluate_integers {name gap gap' written : List Char}
    {entries : List (String × Value)} {stored : Value} {value other : Int}
    (relation : Relation) (isName : IsEntryName name) (blank : Text.allBlank gap = true)
    (blank' : Text.allBlank gap' = true)
    (found : entries.lookup (String.ofList name) = some stored)
    (isInteger : stored.IsInteger value) (holds : Holds value) (holds' : Holds other)
    (isDigits : written = intText other ∨ written = quote (intText other)) :
    evaluate (String.ofList (name ++ gap ++ relation.symbol ++ gap' ++ written))
      (.map entries) = .ok (relation.relates value other) := by
  have literal : Literal written (intText other) := by
    rcases isDigits with rfl | rfl
    · exact Number.literal_intText other
    · exact .quoted (intText other)
  have isOperator : (Evaluator.standard : Evaluator Id).vocabulary.operators.symbol?
      relation.symbol = some relation.operator := relation.symbol?_symbol
  refine (Evaluator.evaluate_entry isName isOperator blank blank' literal _).trans ?_
  exact relation.operator_eq isInteger holds holds' found rfl

theorem evaluate_integers_of_extremes :
    IsEntryName "n".toList ∧ Holds 18446744073709551615 ∧ Holds (-9223372036854775808) ∧
      evaluate "n>=-9223372036854775808"
        (.map [("n", .number (.unsigned 18446744073709551615))]) = .ok true ∧
      evaluate "n\t> \"18446744073709551615\""
        (.map [("n", .string "-9223372036854775808")]) = .ok false := by
  have isName : IsEntryName "n".toList := by
    refine ⟨by decide, ?_, ?_, ?_, by decide⟩ <;>
      · intro character member
        rcases List.mem_singleton.mp member with rfl
        decide
  have most : Holds 18446744073709551615 := by decide
  have least : Holds (-9223372036854775808) := by decide
  have mostDigits : intText 18446744073709551615 = "18446744073709551615".toList := by
    decide +kernel
  have leastDigits : intText (-9223372036854775808) = "-9223372036854775808".toList := by
    decide +kernel
  have isMost :
      (Value.number (.unsigned 18446744073709551615)).IsInteger 18446744073709551615 :=
    .number rfl
  have isLeast : (Value.string (String.ofList (intText (-9223372036854775808)))).IsInteger
      (-9223372036854775808) := .digits
  rw [leastDigits] at isLeast
  have nothing : Text.allBlank [] = true := List.all_nil
  have tab : Text.allBlank "\t".toList = true := by decide
  have space : Text.allBlank " ".toList = true := by decide
  have found : [("n", Value.number (.unsigned 18446744073709551615))].lookup
      (String.ofList "n".toList) = some (.number (.unsigned 18446744073709551615)) := rfl
  have found' :
      [("n", Value.string "-9223372036854775808")].lookup (String.ofList "n".toList) =
      some (.string "-9223372036854775808") := rfl
  have notLess :=
    evaluate_integers .greaterOrEqual isName nothing nothing found isMost most least
    (.inl leastDigits.symm)
  have notGreater := evaluate_integers .greater isName tab space found' isLeast least most
    (.inr (congrArg quote mostDigits.symm))
  exact ⟨isName, most, least, notLess.trans (congrArg Except.ok (by decide)),
    notGreater.trans (congrArg Except.ok (by decide))⟩

end Criteria
