import Std.Data.TreeMap
import Criteria.Context
import Criteria.Text.Blank
import Criteria.Text.Caseless
import Criteria.Text.Shown

/-!
Tables of functions, which find a function by its name. Letter case and the blanks
around a name do not matter.

There is one standard function, `LEN`: the number of characters of a text or of a
literal, or the number of entries of a list or a map.
-/

namespace Criteria

def ValueFunction.normalize (name : String) : String :=
  String.ofList (Text.upper (Text.trim name.toList))

structure FunctionTable (m : Type → Type) where
  entries : Std.TreeMap String (ValueFunction m) compare

namespace FunctionTable

variable {m : Type → Type}

def empty : FunctionTable m :=
  ⟨∅⟩

def insert (table : FunctionTable m) (name : String) (function : ValueFunction m) :
    FunctionTable m :=
  ⟨table.entries.insert (ValueFunction.normalize name) function⟩

def get? (table : FunctionTable m) (name : String) : Option (ValueFunction m) :=
  table.entries[ValueFunction.normalize name]?

def contains (table : FunctionTable m) (name : String) : Bool :=
  (table.get? name).isSome

def size (table : FunctionTable m) : Nat :=
  table.entries.size

def isEmpty (table : FunctionTable m) : Bool :=
  table.entries.isEmpty

def names (table : FunctionTable m) : List String :=
  table.entries.keys

def describe (table : FunctionTable m) : String :=
  "FunctionRegistry \x7b functions: " ++ Text.shownList table.names ++ " \x7d"

end FunctionTable

/-! ## The standard functions -/

/-- The length of a value; 0 where there is nothing to measure. -/
def Value.length : Option Value → Nat
  | none | some .null => 0
  | some (.string text) => text.toList.length
  | some (.list items) => items.length
  | some (.map entries) => entries.length
  | some value => (value.literal?.map fun literal => literal.toList.length).getD 0

namespace ValueFunction

variable {m : Type → Type} [Monad m]

def length : ValueFunction m := fun input =>
  match input.arguments with
  | [argument] => return .number (.unsigned (UInt64.ofNat
      (Value.length (input.context.argumentValue? argument))))
  | _ => throw (.wrongArguments "LEN")

def standard : FunctionTable m :=
  FunctionTable.empty.insert "LEN" length

end ValueFunction

end Criteria
