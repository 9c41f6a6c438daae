import Criteria.Condition.Evaluate
import Criteria.Expr.Parser
import Criteria.Function
import Criteria.Operator.Standard

/-!
Evaluating expressions.

The conditions of an expression are evaluated from left to right, all of them: a
connective never makes a condition on its right superfluous, so an error in any
condition is an error of the expression.
-/

namespace Criteria

def Expr.evaluate {m : Type → Type} [Monad m] (judge : Span → m Bool) : Expr → m Bool
  | .leaf span => judge span
  | .not inner => return !(← inner.evaluate judge)
  | .connect connective left right => do
      let left ← left.evaluate judge
      let right ← right.evaluate judge
      return connective.apply left right

structure Evaluator (m : Type → Type) where
  vocabulary : Vocabulary m
  read : String → Except EvaluationError Expr
  judge : Vocabulary m → Context → String → ExceptT EvaluationError m Bool

namespace Evaluator

variable {m : Type → Type} [Monad m]

def ofVocabulary (vocabulary : Vocabulary m) : Evaluator m :=
  { vocabulary, read := fun expression => Expr.read expression.toList, judge :=
    Condition.evaluate }

def standard : Evaluator m :=
  ofVocabulary ⟨Operator.standard, ValueFunction.standard⟩

def invalidSpan (expression : String) (span : Span) : EvaluationError :=
  .malformedCondition
    (toString span.start ++ ".." ++ toString span.stop ++ " of " ++ expression)

def evaluateLeaf (evaluator : Evaluator m) (context : Context) (text : List Char)
    (span : Span) :
    ExceptT EvaluationError m Bool :=
  match span.slice? text with
  | some condition =>
      evaluator.judge evaluator.vocabulary context (String.ofList condition)
  | none => throw (invalidSpan context.expression span)

def evaluate (evaluator : Evaluator m) (expression : String) (object : Value) :
    ExceptT EvaluationError m Bool :=
  match evaluator.read expression with
  | .ok tree =>
      let text := expression.toList
      tree.evaluate (evaluator.evaluateLeaf ⟨expression, object⟩ text)
  | .error error => throw error

def describe (evaluator : Evaluator m) : String :=
  "ExpressionEvaluator \x7b operators: " ++ evaluator.vocabulary.operators.describe ++
    ", functions: " ++ evaluator.vocabulary.functions.describe ++ ", .. \x7d"

end Evaluator

def evaluate (expression : String) (object : Value) : Except EvaluationError Bool :=
  (Evaluator.standard : Evaluator Id).evaluate expression object

end Criteria
