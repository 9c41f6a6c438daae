/-!
What can be wrong with an expression, and the message for each case.

A case carries the text that the message quotes: the whole expression, the level of
it that holds the fault, one condition, or the name of a function or an operator as
it is written.
-/

namespace Criteria

inductive EvaluationError where
  | unterminatedQuote (expression : String)
  | unbalancedParentheses (expression : String)
  | empty (level : String)
  | incomplete (level : String)
  | malformedCondition (condition : String)
  | wrongArguments (function : String)
  | unknownFunction (function : String)
  | wrongOperand (operation complaint : String)
  deriving DecidableEq, Repr

def EvaluationError.message : EvaluationError → String
  | .unterminatedQuote expression => "unterminated quoted string in " ++ expression
  | .unbalancedParentheses expression => "unbalanced parentheses in " ++ expression
  | .empty level =>
      "received empty expression" ++ if level.isEmpty then "" else " in " ++ level
  | .incomplete level => "incomplete logical operation detected in " ++ level
  | .malformedCondition condition => "received invalid condition " ++ condition
  | .wrongArguments function => "invalid function argument passed to " ++ function
  | .unknownFunction function => "unknown function " ++ function
  | .wrongOperand operation complaint =>
      "invalid operand for " ++ operation ++ ": " ++ complaint

/-! Outcomes can be compared when their results can. -/

instance {Result : Type} [DecidableEq Result] :
    DecidableEq (Except EvaluationError Result)
  | .ok left, .ok right => decidable_of_iff (left = right) (by simp)
  | .error left, .error right => decidable_of_iff (left = right) (by simp)
  | .ok _, .error _ => isFalse (by simp)
  | .error _, .ok _ => isFalse (by simp)

end Criteria
