import Criteria.Error
import Criteria.Text.Quoted
import Criteria.Value.Path

/-!
Operators and functions, and what they can see of an evaluation.

A function computes the subject of a condition from its arguments. An operator decides a
condition from the value of its subject and its literal. Both run in a monad `m` besides
their errors, so that what they do on the way, a log of the calls for instance, is part
of an evaluation.
-/

namespace Criteria

structure Context where
  expression : String
  object : Value

/-- The value that an argument of a function stands for: a quoted text itself, any other
argument what the object has at that path. -/
def Context.argumentValue? (context : Context) (argument : String) : Option Value :=
  match Text.unquote? argument.toList with
  | some text => some (.string (String.ofList text))
  | none => context.object.get? argument

structure ValueFunction.Input where
  arguments : List String
  context : Context

abbrev ValueFunction (m : Type → Type) : Type :=
  ValueFunction.Input → ExceptT EvaluationError m Value

structure Operator.Input where
  /-- The value of the subject; none if the object has nothing at its path. -/
  value : Option Value
  literal : String
  tokens : List String
  context : Context

abbrev Operator (m : Type → Type) : Type :=
  Operator.Input → ExceptT EvaluationError m Bool

end Criteria
