import Criteria.Operator.Table

/-!
The standard operators: equality, order, `IS`, `IN`, and their negations.

The negation of `=` is false of an absent value, as `=` is. The negations of `IS` and
`IN` are the opposites of the operators that they negate.

A number is compared with the number that the literal spells. A text is compared as a
number only where both the text and the literal spell one.
-/

namespace Criteria

/-! ## Values and literals -/

namespace Value

/-- The value, if there is one, is what the literal stands for. Lists and maps never
are. -/
def equalsLiteral (value : Option Value) (literal : String) : Bool :=
  match value with
  | none => false
  | some (.number own) => (Number.read? literal.toList).any own.same
  | some value => value.literal? == some literal

def orderLiteral? (value : Option Value) (literal : String) : Option Ordering :=
  match value with
  | some (.number own) => (Number.read? literal.toList).bind own.order?
  | some (.string text) =>
      match Number.read? text.toList, Number.read? literal.toList with
      | some left, some right => left.order? right
      | _, _ => some (compare text literal)
  | _ => none

end Value

namespace Operator

variable {m : Type → Type} [Monad m]

/-! ## Equality and order -/

def equals (negated : Bool) : Operator m := fun input =>
  return match negated with
    | false => Value.equalsLiteral input.value input.literal
    | true => input.value.isSome && !Value.equalsLiteral input.value input.literal

def ordered (accepted : List Ordering) : Operator m := fun input =>
  return (Value.orderLiteral? input.value input.literal).any accepted.contains

/-! ## `IS` -/

/-- What the literal says of the value: that it is true, that it is false, or that it is
null or there is none. -/
def is? (value : Option Value) (literal : String) : Option Bool :=
  if Text.caseless literal.toList "TRUE".toList then
    some (value.bind Value.bool? == some true)
  else if Text.caseless literal.toList "FALSE".toList then
    some (value.bind Value.bool? == some false)
  else if Text.caseless literal.toList "NULL".toList then
    some (match value with
      | none | some .null => true
      | some _ => false)
  else none

def is (negated : Bool) : Operator m := fun input =>
  match is? input.value input.literal with
  | some holds => return holds != negated
  | none => throw (.wrongOperand (input.tokens[1]?.getD "IS")
      ("expected TRUE, FALSE or NULL, found " ++ input.literal))

/-! ## `IN` -/

def candidates (literal : String) : List String :=
  (Text.splitWhere (· == ',') literal.toList).map fun candidate =>
    String.ofList (Text.trim candidate)

def isIn (negated : Bool) : Operator m := fun input =>
  return (candidates input.literal).any (Value.equalsLiteral input.value) != negated

/-! ## The table -/

def standard : OperatorTable m :=
  OperatorTable.empty
    |>.insert "=" (equals false)
    |>.insert "!=" (equals true)
    |>.insert ">" (ordered [.gt])
    |>.insert ">=" (ordered [.gt, .eq])
    |>.insert "<" (ordered [.lt])
    |>.insert "<=" (ordered [.lt, .eq])
    |>.insert "IS" (is false)
    |>.insert "IS NOT" (is true)
    |>.insert "IN" (isIn false)
    |>.insert "NOT IN" (isIn true)

end Operator

end Criteria
