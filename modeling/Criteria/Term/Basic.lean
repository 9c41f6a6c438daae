import Criteria.Text.Caseless
import Criteria.Text.Span

/-!
The terms of an expression: the connectives, `NOT`, groups in parentheses, and
all other words.
-/

namespace Criteria

inductive Connective where
  | and
  | or
  deriving DecidableEq, Repr

def Connective.apply : Connective → Bool → Bool → Bool
  | .and, left, right => left && right
  | .or, left, right => left || right

inductive Term.Kind where
  | connective (connective : Connective)
  | negation
  | group
  | word
  deriving DecidableEq, Repr

structure Term where
  kind : Term.Kind
  start : Nat
  text : List Char
  deriving DecidableEq, Repr

namespace Term

/-- The kind of a text that is spelled like a connective or like `NOT`, in any
letter case. -/
def keyword? (text : List Char) : Option Kind :=
  if Text.caseless text "AND".toList then some (.connective .and)
  else if Text.caseless text "OR".toList then some (.connective .or)
  else if Text.caseless text "NOT".toList then some .negation
  else none

def wordKind (text : List Char) : Kind :=
  (keyword? text).getD .word

def stop (term : Term) : Nat :=
  term.start + Text.byteSize term.text

def inner (term : Term) : List Char :=
  term.text.tail.dropLast

end Term

end Criteria
