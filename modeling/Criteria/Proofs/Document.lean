import Criteria.Document
import Mathlib.Data.List.Forall2

/-!
The objects of a document and the results for them.

An expression is evaluated on one object after another. Either every object has a
result, and then these are the results for the document, or there is a first object
without one, and its error is that of the document.
-/

namespace Criteria.Document

/-- The objects that a document is taken apart into; none if it is no array but
has to be one. -/
def objects? : Extent → Json → Option (List Json)
  | .whole, document => some [document]
  | .elements, .array items => some items
  | .elements, _ => none

def Extent.element : Extent → Nat → Option Nat
  | .whole, _ => none
  | .elements, index => some index

variable {evaluator : Evaluator Id} {expression : String} {extent : Extent}

def Decides (evaluator : Evaluator Id) (expression : String) (objects : List Json)
    (results : List Bool) : Prop :=
  List.Forall₂
    (fun object result =>
      (evaluator.evaluate expression (.ofJson object)).run = .ok result)
    objects results

theorem decides_or_fails (evaluator : Evaluator Id) (expression : String)
    (objects : List Json) :
    (∃ results, Decides evaluator expression objects results) ∨
      ∃ earlier object later results cause, objects = earlier ++ object :: later ∧
        Decides evaluator expression earlier results ∧
        (evaluator.evaluate expression (.ofJson object)).run = .error cause := by
  induction objects with
  | nil => exact .inl ⟨[], .nil⟩
  | cons object objects induction =>
      cases ran : (evaluator.evaluate expression (.ofJson object)).run with
      | error cause => exact .inr ⟨[], object, objects, [], cause, rfl, .nil, ran⟩
      | ok result =>
          rcases induction with ⟨results, decides⟩ |
            ⟨earlier, object', later, results, cause, rfl, decides, failed⟩
          · exact .inl ⟨result :: results, .cons ran decides⟩
          · exact .inr ⟨object :: earlier, object', later, result :: results, cause, rfl,
              .cons ran decides, failed⟩

/-! ## Objects one after another -/

def evaluateFrom (evaluator : Evaluator Id) (expression : String) (extent : Extent)
    (start : Nat) (objects : List Json) : Except DocumentError (List Bool) :=
  (objects.zipIdx start).mapM fun (object, index) =>
    evaluateObject evaluator expression (extent.element index) object

theorem evaluateFrom_cons (start : Nat) (object : Json) (objects : List Json) :
    evaluateFrom evaluator expression extent start (object :: objects) = do
      let result ← evaluateObject evaluator expression (extent.element start) object
      let results ← evaluateFrom evaluator expression extent (start + 1) objects
      return result :: results := by
  rw [evaluateFrom, List.zipIdx_cons, List.mapM_cons]
  rfl

theorem evaluateObject_of_ok {element : Option Nat} {object : Json} {result : Bool}
    (ran : (evaluator.evaluate expression (.ofJson object)).run = .ok result) :
    evaluateObject evaluator expression element object = .ok result := by
  rw [evaluateObject, ran]

theorem evaluateObject_of_error {element : Option Nat} {object : Json}
    {cause : EvaluationError}
    (failed : (evaluator.evaluate expression (.ofJson object)).run = .error cause) :
    evaluateObject evaluator expression element object =
      .error (.evaluation expression element cause) := by
  rw [evaluateObject, failed]

theorem evaluateFrom_of_decides {objects : List Json} {results : List Bool}
    (decides : Decides evaluator expression objects results) (start : Nat) :
    evaluateFrom evaluator expression extent start objects = .ok results := by
  induction decides generalizing start with
  | nil => rfl
  | cons ran _ induction =>
      rw [evaluateFrom_cons, evaluateObject_of_ok ran, induction]
      rfl

theorem evaluateFrom_of_fails {earlier later : List Json} {object : Json}
    {results : List Bool} {cause : EvaluationError}
    (decides : Decides evaluator expression earlier results)
    (failed : (evaluator.evaluate expression (.ofJson object)).run = .error cause)
    (start : Nat) :
    evaluateFrom evaluator expression extent start (earlier ++ object :: later) =
      .error (.evaluation expression (extent.element (start + earlier.length))
        cause) := by
  induction decides generalizing start with
  | nil =>
      rw [List.nil_append, evaluateFrom_cons, evaluateObject_of_error failed]
      rfl
  | cons ran _ induction =>
      rw [List.cons_append, evaluateFrom_cons, evaluateObject_of_ok ran, induction,
        List.length_cons, Nat.add_assoc, Nat.add_comm 1]
      rfl

/-! ## Documents -/

theorem evaluate_eq {document : Json} {objects : List Json}
    (areObjects : objects? extent document = some objects) :
    evaluate evaluator expression extent document =
      evaluateFrom evaluator expression extent 0 objects := by
  cases extent with
  | whole =>
      cases areObjects
      rw [evaluateFrom_cons]
      rfl
  | elements =>
      cases document <;> cases areObjects
      rfl

theorem evaluate_of_no_objects {document : Json}
    (noObjects : objects? extent document = none) :
    evaluate evaluator expression extent document =
      .error (.notAnArray (Value.ofJson document).kindName) := by
  cases extent with
  | whole => cases noObjects
  | elements =>
      cases document with
      | array => cases noObjects
      | _ => rfl

theorem report_eq (results : List Bool) :
    report results = String.join (results.map fun result => if result then "true\n"
      else "false\n") :=
  congrArg String.join (List.map_congr_left fun result _ => by cases result <;> rfl)

end Criteria.Document
