import Criteria.Number.Basic

/-!
Values, the data that conditions are about.

The entries of a map are sorted by key, and each key occurs once, in every map that
this library builds. `Value.same` is the equality of values; it compares numbers by
their order, so `1` and `1.0` are the same value and a number that is not a number
differs from itself.
-/

namespace Criteria

inductive Value where
  | null
  | bool (value : Bool)
  | number (value : Number)
  | string (value : String)
  | list (items : List Value)
  | map (entries : List (String × Value))

namespace Value

def kindName : Value → String
  | .null => "null"
  | .bool _ => "bool"
  | .number _ => "number"
  | .string _ => "string"
  | .list _ => "list"
  | .map _ => "map"

def string? : Value → Option String
  | .string value => some value
  | _ => none

def number? : Value → Option Number
  | .number value => some value
  | _ => none

def bool? : Value → Option Bool
  | .bool value => some value
  | _ => none

def literal? : Value → Option String
  | .null => some "null"
  | .bool true => some "true"
  | .bool false => some "false"
  | .number value => some (String.ofList value.text)
  | .string value => some value
  | .list _ => none
  | .map _ => none

/-! ## Equality -/

mutual

def same : Value → Value → Bool
  | .null, .null => true
  | .bool left, .bool right => left == right
  | .number left, .number right => left.same right
  | .string left, .string right => left == right
  | .list left, .list right => sameItems left right
  | .map left, .map right => sameEntries left right
  | _, _ => false

def sameItems : List Value → List Value → Bool
  | [], [] => true
  | left :: leftRest, right :: rightRest =>
      left.same right && sameItems leftRest rightRest
  | _, _ => false

def sameEntries : List (String × Value) → List (String × Value) → Bool
  | [], [] => true
  | (leftKey, left) :: leftRest, (rightKey, right) :: rightRest =>
      leftKey == rightKey && left.same right && sameEntries leftRest rightRest
  | _, _ => false

end

end Value

end Criteria
