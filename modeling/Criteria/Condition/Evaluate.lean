import Criteria.Condition.Parts
import Criteria.Function

/-!
Evaluating a condition: it is taken apart, its subject is evaluated, and its
operator decides. The first of these steps that fails decides the error, and no step
runs after it.
-/

namespace Criteria

structure Vocabulary (m : Type → Type) where
  operators : OperatorTable m
  functions : FunctionTable m

namespace Condition

variable {m : Type → Type} [Monad m]

/-- The value of the subject of the condition `condition`; none if the object has
nothing at its path. -/
def subjectValue (functions : FunctionTable m) (context : Context) (condition : String) :
    Subject → ExceptT EvaluationError m (Option Value)
  | .quoted text =>
      match Text.unquote? text with
      | some content => return some (.string (String.ofList content))
      | none => throw (.malformedCondition condition)
  | .path text =>
      match Path.read? text with
      | some path => return context.object.follow? path
      | none => throw (.malformedCondition condition)
  | .call name arguments => do
      match Subject.arguments? arguments, functions.get? (String.ofList name) with
      | none, _ => throw (.wrongArguments (String.ofList name))
      | some _, none => throw (.unknownFunction (String.ofList name))
      | some arguments, some function =>
          return some (← function { arguments := arguments.map String.ofList, context })

def evaluate (vocabulary : Vocabulary m) (context : Context) (condition : String) :
    ExceptT EvaluationError m Bool := do
  let text := Text.trim condition.toList
  match parts? vocabulary.operators text with
  | none => throw (.malformedCondition (String.ofList text))
  | some parts =>
      let value ←
        subjectValue vocabulary.functions context (String.ofList text) parts.subject
      parts.operator {
        value
        literal := String.ofList parts.literal
        tokens :=
          [parts.subjectText, parts.operatorText, parts.literalText].map String.ofList
        context }

end Condition

end Criteria
