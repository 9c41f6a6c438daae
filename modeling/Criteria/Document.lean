import Criteria.Evaluator
import Criteria.Value.Json

/-!
Evaluating an expression on a JSON document: on the document as one object, or on each
element of an array. An error on any object is an error of the whole, and then there are
no results at all.
-/

namespace Criteria

inductive DocumentError where
  | invalidJson
  | evaluation (expression : String) (element : Option Nat) (cause : EvaluationError)
  | notAnArray (kindName : String)
  deriving DecidableEq, Repr

namespace DocumentError

def message : DocumentError → String
  | .invalidJson => "input is not valid JSON"
  | .evaluation expression element _ =>
      "failed to evaluate `" ++ expression ++ "`" ++
        match element with
        | some index => " on element " ++ toString index
        | none => ""
  | .notAnArray kindName => "--each expects a JSON array, found " ++ kindName

def cause? : DocumentError → Option EvaluationError
  | .evaluation _ _ cause => some cause
  | _ => none

def fullMessage (error : DocumentError) : String :=
  error.message ++
    match error.cause? with
    | some cause => ": " ++ cause.message
    | none => ""

end DocumentError

namespace Document

inductive Extent where
  | whole
  | elements
  deriving DecidableEq, Repr

def read (text : String) : Except DocumentError Json :=
  match Json.read? text.toList with
  | some document => .ok document
  | none => .error .invalidJson

def evaluateObject (evaluator : Evaluator Id) (expression : String) (element : Option Nat)
    (object : Json) : Except DocumentError Bool :=
  match (evaluator.evaluate expression (.ofJson object)).run with
  | .ok result => .ok result
  | .error cause => .error (.evaluation expression element cause)

def evaluate (evaluator : Evaluator Id) (expression : String) (extent : Extent)
    (document : Json) :
    Except DocumentError (List Bool) :=
  match extent, document with
  | .whole, document => return [← evaluateObject evaluator expression none document]
  | .elements, .array items =>
      items.zipIdx.mapM fun (item, index) =>
        evaluateObject evaluator expression (some index) item
  | .elements, document => .error (.notAnArray (Value.ofJson document).kindName)

def report (results : List Bool) : String :=
  String.join (results.map fun result => toString result ++ "\n")

def allHold (results : List Bool) : Bool :=
  results.all id

end Document

end Criteria
