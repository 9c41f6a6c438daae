import Criteria.Operator.Table
import Criteria.Text.Quoted

/-!
The subject of a condition, which stands at its start: a quoted text, the path of a
value in the object, or the call of a function.
-/

namespace Criteria

inductive Subject where
  | quoted (text : List Char)
  | path (text : List Char)
  | call (name arguments : List Char)
  deriving DecidableEq, Repr

namespace Subject

def isNameCharacter (character : Char) : Bool :=
  !(isBlank character || isSymbolCharacter character || "\"()".toList.contains character)

def read? (text : List Char) : Option (Subject × List Char × List Char) :=
  if text.head? = some '"' then
    (Text.quotedPart? text).map fun (part, after) => (.quoted part, part, after)
  else
    let (name, afterName) := text.span isNameCharacter
    if name.isEmpty then none
    else
      let (blanks, afterBlanks) := afterName.span isBlank
      match afterBlanks with
      | '(' :: inside =>
          (Nesting.outside.untilClosing? inside).map fun (inner, after) =>
            (.call name inner, name ++ blanks ++ '(' :: inner ++ [')'], after)
      | _ => some (.path name, name, afterName)

/-- The arguments of a call, between commas; none if one of several is blank. -/
def arguments? (text : List Char) : Option (List (List Char)) :=
  if Text.allBlank text then some []
  else
    let pieces := (Nesting.splitOutside ',' .outside text).map Text.trim
    if pieces.any (·.isEmpty) then none else some pieces

end Subject

end Criteria
