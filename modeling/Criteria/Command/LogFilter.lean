import Criteria.Number.Decimal
import Criteria.Text.Pattern
import Criteria.Text.Span

/-!
Log filters: directives between commas.

A directive is a level for everything, or the name of a target, or a span in
brackets, or a target and a span in it. A level for them may follow after an equals
sign. In its brackets a span has a name and, in braces, one field, which may have a
pattern for its value.

The places of these parts are counted from the first character that is not blank, but
the parts are taken from the directive as it is written. So blanks at its start shift
every part to the left, and a part that is shifted may begin or end inside a character.
-/

namespace Criteria.Command.LogFilter

inductive Fault where
  | malformed
  | cutCharacter
  deriving DecidableEq, Repr

/-! ## Parts of a directive -/

def levelNames : List String :=
  ["trace", "debug", "info", "warn", "error", "off"]

def highestLevel : Nat := 5

def isLevel (text : List Char) : Bool :=
  text.isEmpty || levelNames.any (fun level => Text.caseless level.toList text) ||
    (Decimal.readNat? text).any (· ≤ highestLevel)

def startsTarget (character : Char) : Bool :=
  "-:_".toList.contains character || Text.isAlphanumeric character

/-- What a field may be compared with. A number may have a plus sign, a pattern may not
start with one. -/
def isFieldValue (text : List Char) : Bool :=
  (Binary64.read? text).isSome || Text.isPattern text

/-- A field has a name and perhaps a value. What follows a second equals sign is left
out. -/
def isField (text : List Char) : Bool :=
  match text.span (· != '=') with
  | (name, []) => !name.isEmpty
  | (_, _ :: value) => isFieldValue (value.takeWhile (· != '='))

/-! ## Directives

`written` is the directive with the blanks at its ends. The texts that are still to be
read are those of the directive without them, and `start` is the place where such a
text starts. -/

def part (written : List Char) (start stop : Nat) : Except Fault (List Char) :=
  match Span.slice? ⟨start, stop⟩ written with
  | some text => .ok text
  | none => .error .cutCharacter

def require (condition : Bool) : Except Fault Unit :=
  if condition then .ok () else .error .malformed

def checkEnd (written : List Char) (start : Nat) : List Char → Except Fault Unit
  | [] => .ok ()
  | '=' :: _ => do require (isLevel (← part written (start + 1) (Text.byteSize written)))
  | _ => .error .malformed

def checkField (written : List Char) (start : Nat) (text : List Char) :
    Except Fault Unit := do
  let (field, rest) := text.span (· != '}')
  let stop := start + Text.byteSize field
  match rest with
  | [] => .error .malformed
  | _ :: rest =>
      require (isField (← part written start stop))
      match rest with
      | ']' :: rest => checkEnd written (stop + 2) rest
      | _ => .error .malformed

def checkSpan (written : List Char) (start : Nat) (text : List Char) :
    Except Fault Unit := do
  let (name, rest) := text.span fun character => character != ']' && character != '{'
  let stop := start + Text.byteSize name
  match rest with
  | [] => .error .malformed
  | bracket :: rest =>
      let _ ← part written start stop
      if bracket = ']' then checkEnd written (stop + 1) rest
      else checkField written (stop + 1) rest

def checkDirective (written : List Char) : Except Fault Unit := do
  match Text.trim written with
  | [] => .error .malformed
  | '[' :: rest => checkSpan written 1 rest
  | first :: rest =>
      require (startsTarget first)
      let (target, rest) :=
        (first :: rest).span fun character => character != '[' && character != '='
      match rest with
      | [] => .ok ()
      | mark :: after =>
          let stop := Text.byteSize target
          let _ ← part written 0 stop
          if mark = '[' then checkSpan written (stop + 1) after
            else checkEnd written stop rest

/-! ## Filters -/

def directives (filter : String) : List (List Char) :=
  (Text.splitWhere (· == ',') filter.toList).filter (!·.isEmpty)

def directiveFault? (written : List Char) : Option Fault :=
  match checkDirective written with
  | .ok () => none
  | .error fault => some fault

def fault? (filter : String) : Option Fault :=
  (directives filter).findSome? directiveFault?

/-- Malformed directives of a filter can be left out, but not a directive that cuts
a character. -/
def cutsCharacter (filter : String) : Bool :=
  (directives filter).any fun directive => directiveFault? directive == some .cutCharacter

end Criteria.Command.LogFilter
