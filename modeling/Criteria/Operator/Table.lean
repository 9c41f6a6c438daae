import Std.Data.TreeMap
import Criteria.Context
import Criteria.Text.Blank
import Criteria.Text.Caseless
import Criteria.Text.Shown

/-!
Tables of operators, which find an operator by its name.

A name is a symbol, as `>=`, or one or more keywords, as `IS NOT`. Letter case and the
blanks around and between keywords do not matter: `normalize` gives the one form that a
name has in a table. A name that is no symbol is a keyword name, even a blank one.
-/

namespace Criteria

def isSymbolCharacter (character : Char) : Bool :=
  "=<>!~^*%&|?".toList.contains character

namespace Operator

/-! ## Names -/

def isSymbol (name : List Char) : Bool :=
  !name.isEmpty && name.all isSymbolCharacter

def joinKeywords (words : List (List Char)) : String :=
  String.ofList (Text.joinWords (words.map Text.upper))

def normalize (name : String) : String :=
  let trimmed := Text.trim name.toList
  if isSymbol trimmed then String.ofList trimmed else joinKeywords (Text.words trimmed)

/-- The keywords of a normal form. The blank one has one keyword, which is empty. -/
def keywords (key : String) : List (List Char) :=
  Text.splitWhere (· == ' ') key.toList

inductive Kind where
  | symbol
  | keyword
  deriving DecidableEq, Repr

def kind (name : String) : Kind :=
  if isSymbol (Text.trim name.toList) then .symbol else .keyword

structure Entry (m : Type → Type) where
  kind : Kind
  operator : Operator m

end Operator

/-! ## Tables -/

structure OperatorTable (m : Type → Type) where
  entries : Std.TreeMap String (Operator.Entry m) compare
  named : ∀ (key : String) entry, entries[key]? = some entry →
    ∃ name, Operator.normalize name = key ∧ Operator.kind name = entry.kind

namespace OperatorTable

variable {m : Type → Type}

def empty : OperatorTable m where
  entries := ∅
  named key entry found := by simp at found

def insert (table : OperatorTable m) (name : String) (operator : Operator m) :
    OperatorTable m where
  entries := table.entries.insert (Operator.normalize name) ⟨Operator.kind name, operator⟩
  named key entry found := by
    rw [Std.TreeMap.getElem?_insert] at found
    split at found
    · rename_i same
      cases found
      exact ⟨name, Std.LawfulEqOrd.eq_of_compare same, rfl⟩
    · exact table.named key entry found

def get? (table : OperatorTable m) (name : String) : Option (Operator m) :=
  table.entries[Operator.normalize name]?.map (·.operator)

def contains (table : OperatorTable m) (name : String) : Bool :=
  (table.get? name).isSome

def size (table : OperatorTable m) : Nat :=
  table.entries.size

def isEmpty (table : OperatorTable m) : Bool :=
  table.entries.isEmpty

def names (table : OperatorTable m) : List String :=
  table.entries.keys

/-! A condition is taken apart by symbols and keywords that are already separate, so
there is a look-up for each of the two kinds of names. -/

def ofKind? (table : OperatorTable m) (kind : Operator.Kind) (key : String) :
    Option (Operator m) :=
  (table.entries[key]?.filter (·.kind = kind)).map (·.operator)

def symbol? (table : OperatorTable m) (symbol : List Char) : Option (Operator m) :=
  table.ofKind? .symbol (String.ofList symbol)

def keyword? (table : OperatorTable m) (words : List (List Char)) : Option (Operator m) :=
  table.ofKind? .keyword (Operator.joinKeywords words)

def keywordNames (table : OperatorTable m) : List String :=
  (table.entries.toList.filter (·.2.kind = .keyword)).map Prod.fst

def beginsKeyword (table : OperatorTable m) (word : List Char) : Bool :=
  table.keywordNames.any fun key => (Operator.keywords key).head?.any (Text.caseless word)

def longestKeyword (table : OperatorTable m) : Nat :=
  ((table.keywordNames.map fun key => (Operator.keywords key).length).max?).getD 0

def describe (table : OperatorTable m) : String :=
  "OperatorRegistry \x7b operators: " ++ Text.shownList table.names ++ " \x7d"

end OperatorTable

end Criteria
