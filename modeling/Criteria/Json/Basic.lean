import Std.Data.TreeMap
import Criteria.Json.Numeral
import Criteria.Json.Written

/-!
JSON documents. The members of an object are sorted by key, and each key occurs once: of
repeated members the last one counts.
-/

namespace Criteria

inductive Json where
  | null
  | bool (value : Bool)
  | number (value : Json.Numeral)
  | string (value : String)
  | array (items : List Json)
  | object (members : List (String × Json))

namespace Json

def ofMembers (members : List (String × Json)) : Json :=
  .object (Std.TreeMap.ofList members compare).toList

def depthLimit : Nat := 127

mutual

/-- The document that a text stands for. None if a number is too large, a string is not
made of characters, or arrays and objects are nested deeper than `depth`. -/
def ofWritten? (depth : Nat) : Written → Option Json
  | .null => some .null
  | .bool value => some (.bool value)
  | .number text => (Numeral.ofText? text).map .number
  | .string glyphs => (Glyph.decode? glyphs).map fun text => .string (String.ofList text)
  | .array items => if depth = 0 then none else itemsOfWritten? (depth - 1) [] items
  | .object members =>
      if depth = 0 then none else membersOfWritten? (depth - 1) [] members

def itemsOfWritten? (depth : Nat) (reversed : List Json) : List Written → Option Json
  | [] => some (.array reversed.reverse)
  | item :: rest =>
      match ofWritten? depth item with
      | some item => itemsOfWritten? depth (item :: reversed) rest
      | none => none

def membersOfWritten? (depth : Nat) (reversed : List (String × Json)) :
    List (List Glyph × Written) → Option Json
  | [] => some (ofMembers reversed.reverse)
  | (key, value) :: rest =>
      match Glyph.decode? key, ofWritten? depth value with
      | some key, some value =>
          membersOfWritten? depth ((String.ofList key, value) :: reversed) rest
      | _, _ => none

end

def read? (text : List Char) : Option Json :=
  (Written.read? text).bind (ofWritten? depthLimit)

end Json

end Criteria
