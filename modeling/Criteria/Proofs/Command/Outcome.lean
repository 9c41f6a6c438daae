import Criteria.Proofs.Command.Quiet
import Criteria.Proofs.Document

/-!
What comes of a command line.

The outcome depends on the results for the objects of the document and on nothing else:
the lines that are written, the exit code, and the complaint about the first object that
has no result. There are no lines if there is a complaint.
-/

namespace Criteria.Command

open Document (Decides)

def Arguments.extent (arguments : Arguments) : Document.Extent :=
  if arguments.each then .elements else .whole

def conclude (arguments : Arguments) : Except Failure String → Outcome
  | .ok text => outcome arguments text
  | .error failure => .failed failure

theorem plan_of_run {words : List String} {environment : String → Option String}
    {arguments : Arguments} (isRun : Request.ofWords words = .run arguments)
    (noFailure : logFilterFailure? arguments environment = none) :
    plan words environment =
      .evaluate (arguments.file.elim .standardInput .file) (conclude arguments) := by
  simp only [plan, isRun, noFailure]
  congr 1

/-! ## Complaints and exit codes -/

theorem complaint?_notAnArray (kindName : String) :
    (Outcome.failed (.document (.notAnArray kindName))).complaint? =
      some ("error: --each expects a JSON array, found " ++ kindName) := by
  have literal : "error: " ++ "--each expects a JSON array, found " =
      "error: --each expects a JSON array, found " := by decide +kernel
  change some ("error: " ++ ("--each expects a JSON array, found " ++ kindName ++ "")) = _
  rw [String.append_empty, ← String.append_assoc, literal]

theorem complaint?_evaluation (arguments : Arguments) (index : Nat)
    (cause : EvaluationError) :
    (Outcome.failed (.document (.evaluation arguments.expression
      (arguments.extent.element index) cause))).complaint? =
      some ("error: failed to evaluate `" ++ arguments.expression ++ "`" ++
        (if arguments.each then " on element " ++ toString index else "") ++ ": " ++
        cause.message) := by
  have literal : "error: " ++ "failed to evaluate `" = "error: failed to evaluate `" := by
    decide +kernel
  have element : arguments.extent.element index = if arguments.each then some index
      else none := by
    rw [Arguments.extent]
    cases arguments.each with
    | false => rfl
    | true => rfl
  rw [element, ← literal]
  cases arguments.each with
  | false =>
      change some ("error: " ++
        ("failed to evaluate `" ++ arguments.expression ++ "`" ++ "" ++
        (": " ++ cause.message))) = some ("error: " ++ "failed to evaluate `" ++
          arguments.expression ++ "`" ++ "" ++ ": " ++ cause.message)
      simp only [String.append_assoc]
  | true =>
      change some ("error: " ++ ("failed to evaluate `" ++ arguments.expression ++ "`" ++
        (" on element " ++ toString index) ++ (": " ++ cause.message))) =
          some ("error: " ++ "failed to evaluate `" ++ arguments.expression ++ "`" ++
            (" on element " ++ toString index) ++ ": " ++ cause.message)
      simp only [String.append_assoc]

theorem exitCode_decided (report : String) (results : List Bool) :
    (Outcome.decided report (Document.allHold results)).exitCode =
      if ∀ result ∈ results, result = true then 0 else 1 := by
  simp only [Outcome.exitCode, Document.allHold, List.all_eq_true, id]

/-! ## Documents -/

section Documents

variable {arguments : Arguments} {text : String} {document : Json}

theorem outcome_eq (isDocument : Document.read text = .ok document) :
    outcome arguments text =
      match Document.evaluate .standard arguments.expression arguments.extent
        document with
      | .ok results =>
          .decided (if arguments.quiet then "" else Document.report results)
            (Document.allHold results)
      | .error error => .failed (.document error) := by
  rw [outcome, isDocument]
  rfl

theorem outcome_of_no_objects (isDocument : Document.read text = .ok document)
    (noObjects : Document.objects? arguments.extent document = none) :
    outcome arguments text =
      .failed (.document (.notAnArray (Value.ofJson document).kindName)) := by
  rw [outcome_eq isDocument, Document.evaluate_of_no_objects noObjects]

theorem outcome_of_decides {objects : List Json} {results : List Bool}
    (isDocument : Document.read text = .ok document)
    (areObjects : Document.objects? arguments.extent document = some objects)
    (decides : Decides .standard arguments.expression objects results) :
    outcome arguments text =
      .decided (if arguments.quiet then "" else Document.report results)
        (Document.allHold results) := by
  rw [outcome_eq isDocument, Document.evaluate_eq areObjects,
    Document.evaluateFrom_of_decides decides 0]

theorem outcome_of_fails {earlier later : List Json} {object : Json} {results : List Bool}
    {cause : EvaluationError} (isDocument : Document.read text = .ok document)
    (areObjects :
      Document.objects? arguments.extent document = some (earlier ++ object :: later))
    (decides : Decides .standard arguments.expression earlier results)
    (failed : evaluate arguments.expression (.ofJson object) = .error cause) :
    outcome arguments text = .failed (.document (.evaluation arguments.expression
      (arguments.extent.element earlier.length) cause)) := by
  rw [outcome_eq isDocument, Document.evaluate_eq areObjects,
    Document.evaluateFrom_of_fails decides failed 0, Nat.zero_add]

end Documents

/-! ## The exit code -/

theorem exitCode_outcome_quiet (arguments : Arguments) (quiet : Bool) (text : String) :
    (outcome { arguments with quiet } text).exitCode =
      (outcome arguments text).exitCode := by
  simp only [outcome]
  split
  · rename_i evaluated
    rw [evaluated]
    rfl
  · rename_i failed
    rw [failed]

theorem exitCode_conclude_quiet (arguments : Arguments) (quiet : Bool)
    (input : Except Failure String) :
    (conclude { arguments with quiet } input).exitCode =
      (conclude arguments input).exitCode := by
  cases input with
  | ok text => exact exitCode_outcome_quiet arguments quiet text
  | error failure => rfl

/-! ## All of it -/

/-- What comes of a command line whose log filter is in order, for every text that is a
document. Unless all objects of it have results there are no lines, and the exit code is
2; the complaint is about the first object without one. Otherwise there is a line for
each result, and the exit code is 0 or 1. The option that leaves the lines out has no
part in the exit code. What is said of the results for a document is true of every
evaluator, not of the standard one only. -/
theorem plan_decides {words : List String} {environment : String → Option String}
    {arguments : Arguments} (isRun : Request.ofWords words = .run arguments)
    (noFailure : logFilterFailure? arguments environment = none) :
    let source : Source := arguments.file.elim .standardInput .file
    let decides := List.Forall₂ fun object result =>
      evaluate arguments.expression (.ofJson object) = .ok result
    plan words environment = .evaluate source (conclude arguments) ∧
    (∀ evaluator document objects,
      Document.objects? arguments.extent document = some objects →
      (∀ results, Decides evaluator arguments.expression objects results →
        Document.evaluate evaluator arguments.expression arguments.extent document =
          .ok results) ∧
      ∀ earlier object later results cause, objects = earlier ++ object :: later →
        Decides evaluator arguments.expression earlier results →
        (evaluator.evaluate arguments.expression (.ofJson object)).run = .error cause →
        Document.evaluate evaluator arguments.expression arguments.extent document =
          .error (.evaluation arguments.expression
            (arguments.extent.element earlier.length) cause)) ∧
    (∀ text document, Document.read text = .ok document →
      let outcome := conclude arguments (.ok text)
      (Document.objects? arguments.extent document = none →
        outcome.output = "" ∧ outcome.exitCode = 2 ∧
        outcome.complaint? = some ("error: --each expects a JSON array, found " ++
          (Value.ofJson document).kindName)) ∧
      ∀ objects, Document.objects? arguments.extent document = some objects →
        ((∃ results, decides objects results) ∨
          ∃ earlier object later results cause, objects = earlier ++ object :: later ∧
            decides earlier results ∧
            evaluate arguments.expression (.ofJson object) = .error cause) ∧
        (∀ results, decides objects results →
          Document.evaluate .standard arguments.expression arguments.extent document =
            .ok results ∧
          outcome.output = (if arguments.quiet then "" else
            String.join (results.map fun result => if result then "true\n"
              else "false\n")) ∧
          outcome.exitCode = (if ∀ result ∈ results, result = true then 0 else 1) ∧
          outcome.complaint? = none) ∧
        ∀ earlier object later results cause, objects = earlier ++ object :: later →
          decides earlier results →
          evaluate arguments.expression (.ofJson object) = .error cause →
          outcome.output = "" ∧ outcome.exitCode = 2 ∧
          outcome.complaint? =
            some ("error: failed to evaluate `" ++ arguments.expression ++ "`" ++
              (if arguments.each then " on element " ++ toString earlier.length
                else "") ++ ": " ++ cause.message)) ∧
    (∀ quiet words', Request.ofWords words' = .run { arguments with quiet } →
      plan words' environment = .evaluate source (conclude { arguments with quiet }) ∧
        ∀ input, (conclude { arguments with quiet } input).exitCode =
          (conclude arguments input).exitCode) ∧
    (arguments.quiet = false → ∀ option ∈ ["--quiet", "-q"],
      Request.ofWords (option :: words) = .run { arguments with quiet := true }) := by
  intro source decides
  refine ⟨plan_of_run isRun noFailure, ?_, ?_, ?_,
    fun loud option => Request.ofWords_quiet isRun loud⟩
  · intro evaluator document objects areObjects
    rw [Document.evaluate_eq areObjects]
    refine ⟨fun results decided => Document.evaluateFrom_of_decides decided 0, ?_⟩
    rintro earlier object later results cause rfl decided failed
    rw [Document.evaluateFrom_of_fails decided failed 0, Nat.zero_add]
  · intro text document isDocument result
    have isResult : result = outcome arguments text := rfl
    refine ⟨fun noObjects => ?_, fun objects areObjects => ⟨?_, ?_, ?_⟩⟩
    · rw [isResult, outcome_of_no_objects isDocument noObjects]
      exact ⟨rfl, rfl, complaint?_notAnArray _⟩
    · exact Document.decides_or_fails .standard arguments.expression objects
    · intro results decided
      refine ⟨?_, ?_⟩
      · rw [Document.evaluate_eq areObjects, Document.evaluateFrom_of_decides decided 0]
      · rw [isResult, outcome_of_decides isDocument areObjects decided,
          Document.report_eq]
        exact ⟨rfl, exitCode_decided _ results, rfl⟩
    · rintro earlier object later results cause rfl decided failed
      rw [isResult, outcome_of_fails isDocument areObjects decided failed]
      exact ⟨rfl, rfl, complaint?_evaluation arguments earlier.length cause⟩
  · intro quiet words' isRun'
    exact ⟨plan_of_run isRun' noFailure, exitCode_conclude_quiet arguments quiet⟩

theorem plan_decides_of_second_element :
    let words := ["--each", "a is true", "--", "objects.json"]
    let arguments : Arguments := ⟨"a is true", some "objects.json", true, false, none⟩
    let environment : String → Option String := fun _ => none
    let picky : Operator Id := fun input =>
      if input.value.isSome then return true
        else throw (.wrongOperand "is" "nothing there")
    let evaluator : Evaluator Id :=
      .ofVocabulary ⟨OperatorTable.empty.insert "is" picky, FunctionTable.empty⟩
    let present : Json := .object [("a", .null)]
    Document.evaluate evaluator arguments.expression .elements
      (.array [present, .null, present]) =
        .error (.evaluation "a is true" (some 1) (.wrongOperand "is" "nothing there")) ∧
      plan ("-q" :: words) environment =
        .evaluate (.file "objects.json") (conclude { arguments with quiet := true }) ∧
      (conclude arguments (.ok "[\x7b\"a\": true\x7d, null]")).output =
        "true\nfalse\n" := by
  intro words arguments environment picky evaluator present
  have isRun : Request.ofWords words = .run arguments := by decide +kernel
  have noFailure : logFilterFailure? arguments environment = none := by decide +kernel
  rcases plan_decides isRun noFailure with ⟨_, general, decided, quiet, added⟩
  refine ⟨?_, ?_, ?_⟩
  · let ran (object : Json) : Except EvaluationError Bool :=
      (evaluator.evaluate "a is true" (.ofJson object)).run
    have first : ran present = .ok true := by decide +kernel
    have second :
        ran .null = .error (.wrongOperand "is" "nothing there") := by decide +kernel
    exact (general evaluator (.array [present, .null, present]) _ rfl).2
      [present] .null [present] [true] _ rfl (.cons first .nil) second
  · exact (quiet true _ (added rfl "-q" (by decide))).1
  · have isDocument : Document.read "[\x7b\"a\": true\x7d, null]" =
        .ok (.array [.object [("a", .bool true)], .null]) := rfl
    have first : evaluate "a is true" (.ofJson (.object [("a", .bool true)])) =
        .ok true := by
      decide +kernel
    have second : evaluate "a is true" (.ofJson .null) = .ok false := by decide +kernel
    exact (((decided _ _ isDocument).2 _ rfl).2.1 _ (.cons first (.cons second .nil))).2.1

end Criteria.Command
