import Criteria.Text.Blank
import Criteria.Value.Basic

/-!
Paths into values, written as in `items[0].name`.

A path is a sequence of segments between dots. A segment is a name and any number of
indexes in brackets after it. On a map a name and an index both are keys; on a list an
index is a position, and so is a name that is a number.
-/

namespace Criteria

inductive Path.Step where
  | attribute (name : String)
  | index (position : UInt64)
  deriving DecidableEq, Repr

structure Path where
  steps : List Path.Step
  deriving DecidableEq, Repr

namespace Path

/-! ## Reading -/

def position? (digits : List Char) : Option UInt64 :=
  let position := Decimal.digitsValue digits
  if !digits.isEmpty && digits.all Char.isDigit && position < UInt64.size then
    some (UInt64.ofNat position)
  else none

def index? : List Char → Option Step
  | '[' :: digits => (position? digits).map .index
  | _ => none

/-- The indexes that follow a name. Each one ends with a bracket, so nothing may stand
after the last bracket. -/
def indexes? (text : List Char) : Option (List Step) :=
  let pieces := Text.splitWhere (· == ']') text
  if pieces.getLast? = some [] then pieces.dropLast.mapM index? else none

def isNameCharacter (character : Char) : Bool :=
  character != '[' && character != ']'

def segment? (text : List Char) : Option (List Step) :=
  let (name, indexes) := text.span isNameCharacter
  if name.isEmpty then none
  else (indexes? indexes).map (.attribute (String.ofList name) :: ·)

def read? (text : List Char) : Option Path :=
  ((Text.splitWhere (· == '.') text).mapM segment?).map fun segments => ⟨segments.flatten⟩

/-! ## Writing -/

def stepText : Step → List Char
  | .attribute name => '.' :: name.toList
  | .index position => '[' :: Nat.toDigits 10 position.toNat ++ [']']

def text (path : Path) : List Char :=
  match path.steps with
  | .attribute name :: rest => name.toList ++ rest.flatMap stepText
  | steps => steps.flatMap stepText

end Path

/-! ## Looking up -/

namespace Value

/-- The position that a name stands for on a list: digits, perhaps with a plus sign. -/
def positionOfName? (name : String) : Option UInt64 :=
  ((Decimal.readNat? name.toList).filter (· < UInt64.size)).map UInt64.ofNat

def step? : Value → Path.Step → Option Value
  | .map entries, .attribute name => entries.lookup name
  | .map entries, .index position =>
      entries.lookup (String.ofList (Nat.toDigits 10 position.toNat))
  | .list items, .index position => items[position.toNat]?
  | .list items, .attribute name => (positionOfName? name).bind fun position =>
      items[position.toNat]?
  | _, _ => none

def follow? (value : Value) (path : Path) : Option Value :=
  path.steps.foldlM step? value

def get? (value : Value) (path : String) : Option Value :=
  (Path.read? path.toList).bind value.follow?

end Value

end Criteria
