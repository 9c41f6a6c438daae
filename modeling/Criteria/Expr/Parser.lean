import Criteria.Expr.Level

/-!
Reading expressions.

A text is split into terms, the terms make up a level, and each group among its operands
is read in the same way from the text inside its parentheses. Of several faults the
leftmost is reported, except that a fault of quotes or parentheses anywhere in the text
comes before all others.
-/

namespace Criteria

def Term.Fault.error (expression : List Char) : Term.Fault → EvaluationError
  | .unterminatedQuote => .unterminatedQuote (String.ofList (Text.trim expression))
  | .unbalancedParentheses =>
      .unbalancedParentheses (String.ofList (Text.trim expression))

namespace Expr

/-- Reads the part `text` of an expression, which starts at the byte offset `start`. -/
def readPart (expression : List Char) (start : Nat) (text : List Char) :
    Except EvaluationError Expr :=
  match splits : Term.split start text with
  | .error fault => .error (fault.error expression)
  | .ok terms =>
      Level.read (String.ofList (Text.trim text)) terms fun group _ =>
        readPart expression (group.start + 1) group.inner
termination_by text.length
decreasing_by exact Term.inner_length_lt splits ‹_›

def read (expression : List Char) : Except EvaluationError Expr :=
  readPart expression 0 expression

end Expr

end Criteria
