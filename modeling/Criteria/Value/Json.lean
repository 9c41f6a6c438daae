import Criteria.Json.Basic
import Criteria.Value.Basic

/-!
Values from JSON documents and back. The only loss is that of the floats that are not
finite: JSON has no text for them, and they become null.
-/

namespace Criteria

namespace Json.Numeral

def toNumber : Numeral → Number
  | .integer value _ => .ofInt value
  | .float negative magnitude => .float (.finite negative magnitude)

end Json.Numeral

namespace Number

theorem holds_signed (value : Int64) : Holds value.toInt := by
  have lower := value.le_toInt
  have upper := value.toInt_lt
  exact holds_iff.mpr (by omega)

theorem holds_unsigned (value : UInt64) : Holds value.toNat := by
  have upper := value.toNat_lt
  exact holds_iff.mpr (by omega)

def numeral? : Number → Option Json.Numeral
  | .signed value => some (.integer value.toInt (holds_signed value))
  | .unsigned value => some (.integer value.toNat (holds_unsigned value))
  | .float (.finite negative magnitude) => some (.float negative magnitude)
  | .float _ => none

end Number

namespace Value

mutual

def ofJson : Json → Value
  | .null => .null
  | .bool value => .bool value
  | .number value => .number value.toNumber
  | .string value => .string value
  | .array items => .list (itemsOfJson items)
  | .object members => .map (entriesOfJson members)

def itemsOfJson : List Json → List Value
  | [] => []
  | item :: rest => ofJson item :: itemsOfJson rest

def entriesOfJson : List (String × Json) → List (String × Value)
  | [] => []
  | (key, value) :: rest => (key, ofJson value) :: entriesOfJson rest

end

mutual

def toJson : Value → Json
  | .null => .null
  | .bool value => .bool value
  | .number value =>
      match value.numeral? with
      | some numeral => .number numeral
      | none => .null
  | .string value => .string value
  | .list items => .array (itemsToJson items)
  | .map entries => .object (entriesToJson entries)

def itemsToJson : List Value → List Json
  | [] => []
  | item :: rest => toJson item :: itemsToJson rest

def entriesToJson : List (String × Value) → List (String × Json)
  | [] => []
  | (key, value) :: rest => (key, toJson value) :: entriesToJson rest

end

end Value

end Criteria
