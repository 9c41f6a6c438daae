import Criteria.Proofs.Condition.Map
import Criteria.Proofs.Evaluator.Calls

/-!
The stages of a condition.

A condition is taken apart, its subject is evaluated, its operator decides. The
functions and the operators may do anything besides: they have a state that they pass
on, and a log that they do not see is kept of their calls. The first stage that fails
fixes the error, and there are no calls of later stages in the log.
-/

namespace Criteria

namespace Condition

theorem exists_unquote?_of_parts? {m : Type → Type} {operators : OperatorTable m}
    {text quoted : List Char} {parts : Parts m}
    (isParts : parts? operators text = some parts)
    (isQuoted : parts.subject = .quoted quoted) :
    ∃ content, Text.unquote? quoted = some content := by
  rcases finds_of_parts? isParts with ⟨isSubject, _, _⟩
  cases isQuoted
  cases Subject.reads_of_read? isSubject with
  | quoted isPart => exact Text.exists_unquote?_of_quotedPart? isPart

/-! ## Calls and the log of them -/

inductive Call where
  | function (name : String) (input : ValueFunction.Input)
  | operator (name : String) (input : Operator.Input)

def Call.isFunction : Call → Bool
  | .function .. => true
  | .operator .. => false

def Call.isOperator : Call → Bool
  | .function .. => false
  | .operator .. => true

variable {σ : Type}

/-- Evaluation over the state of the functions and operators and a log of their calls. -/
abbrev Recorded (σ : Type) : Type → Type :=
  StateM (List Call × σ)

def record {Result : Type} (call : Call)
    (action : ExceptT EvaluationError (StateM σ) Result) :
    ExceptT EvaluationError (Recorded σ) Result :=
  ExceptT.mk fun (log, state) =>
    let (outcome, next) := action.run.run state
    (outcome, log ++ [call], next)

theorem record_run {Result : Type} {call : Call} {state last : σ}
    {action : ExceptT EvaluationError (StateM σ) Result}
    {outcome : Except EvaluationError Result}
    (ran : action.run.run state = (outcome, last)) {log : List Call} :
    (record call action).run.run (log, state) = (outcome, log ++ [call], last) := by
  have ran' : action state = (outcome, last) := ran
  change ((action state).1, log ++ [call], (action state).2) = _
  rw [ran']

/-- The vocabulary whose functions and operators do what they did, and each call
is recorded. -/
def recordCalls (vocabulary : Vocabulary (StateM σ)) : Vocabulary (Recorded σ) where
  operators := vocabulary.operators.map fun name operator input =>
    record (.operator name input) (operator input)
  functions := vocabulary.functions.map fun name function input =>
    record (.function name input) (function input)

/-! ## The courses that an evaluation can take -/

section Courses

variable (vocabulary : Vocabulary (StateM σ)) (context : Context)

/-- How the subject of the condition `text` is evaluated, from the state before to the
state after: the outcome and the calls. -/
inductive SubjectCourse (text : List Char) :
    Subject → σ → Except EvaluationError (Option Value) → List Call → σ → Prop
  | quoted {quoted content : List Char} {state : σ}
      (isContent : Text.unquote? quoted = some content) :
      SubjectCourse text (.quoted quoted) state
        (.ok (some (.string (String.ofList content)))) [] state
  | path {written : List Char} {path : Path} {state : σ}
      (isPath : Path.read? written = some path) :
      SubjectCourse text (.path written) state
        (.ok (context.object.follow? path)) [] state
  | noPath {written : List Char} {state : σ} (noPath : Path.read? written = none) :
      SubjectCourse text (.path written) state
        (.error (.malformedCondition (String.ofList text))) [] state
  | blankArgument {name written : List Char} {state : σ}
      (blank : Subject.arguments? written = none) :
      SubjectCourse text (.call name written) state
        (.error (.wrongArguments (String.ofList name))) [] state
  | unknown {name written : List Char} {arguments : List (List Char)} {state : σ}
      (isSplit : Subject.arguments? written = some arguments)
      (noFunction : vocabulary.functions.get? (String.ofList name) = none) :
      SubjectCourse text (.call name written) state
        (.error (.unknownFunction (String.ofList name))) [] state
  | called {name written : List Char} {arguments : List (List Char)}
      {function : ValueFunction (StateM σ)} {state last : σ}
      {outcome : Except EvaluationError Value}
      (isSplit : Subject.arguments? written = some arguments)
      (known : vocabulary.functions.get? (String.ofList name) = some function)
      (ran : (function ⟨arguments.map String.ofList, context⟩).run.run state =
        (outcome, last)) :
      SubjectCourse text (.call name written) state (outcome.map some)
        [.function (ValueFunction.normalize (String.ofList name))
          ⟨arguments.map String.ofList, context⟩] last

def Parts.input (parts : Parts (StateM σ)) (value : Option Value) : Operator.Input where
  value
  literal := String.ofList parts.literal
  tokens := [parts.subjectText, parts.operatorText, parts.literalText].map String.ofList
  context

/-- How a condition is evaluated, from the state before to the state after: the outcome
and the calls. -/
inductive Course (text : List Char) (state : σ) :
    Except EvaluationError Bool → List Call → σ → Prop
  | malformed (noParts : parts? vocabulary.operators text = none) :
      Course text state (.error (.malformedCondition (String.ofList text))) [] state
  | subjectFails {parts : Parts (StateM σ)} {error : EvaluationError} {calls : List Call}
      {last : σ} (isParts : parts? vocabulary.operators text = some parts)
      (subject : SubjectCourse vocabulary context text parts.subject state
        (.error error) calls last) :
      Course text state (.error error) calls last
  | decided {parts : Parts (StateM σ)} {value : Option Value} {calls : List Call}
      {middle last : σ} {outcome : Except EvaluationError Bool}
      (isParts : parts? vocabulary.operators text = some parts)
      (subject : SubjectCourse vocabulary context text parts.subject state
        (.ok value) calls middle)
      (ran : (parts.operator (parts.input context value)).run.run middle =
        (outcome, last)) :
      Course text state outcome
        (calls ++ [.operator (Operator.normalize (String.ofList parts.operatorText))
          (parts.input context value)]) last

end Courses

section Runs

variable {vocabulary : Vocabulary (StateM σ)} {context : Context} {text : List Char}
  {subject : Subject} {state last : σ} {calls : List Call}

theorem subjectCourse_exists
    (canUnquote : ∀ quoted, subject = .quoted quoted →
      ∃ content, Text.unquote? quoted = some content)
    (state : σ) : ∃ outcome calls last,
      SubjectCourse vocabulary context text subject state outcome calls last := by
  cases subject with
  | quoted quoted =>
      rcases canUnquote quoted rfl with ⟨content, isContent⟩
      exact ⟨_, _, _, .quoted isContent⟩
  | path written =>
      cases isPath : Path.read? written with
      | none => exact ⟨_, _, _, .noPath isPath⟩
      | some path => exact ⟨_, _, _, .path isPath⟩
  | call name written =>
      cases isSplit : Subject.arguments? written with
      | none => exact ⟨_, _, _, .blankArgument isSplit⟩
      | some arguments =>
          cases known : vocabulary.functions.get? (String.ofList name) with
          | none => exact ⟨_, _, _, .unknown isSplit known⟩
          | some function => exact ⟨_, _, _, .called isSplit known rfl⟩

theorem SubjectCourse.run_eq {outcome : Except EvaluationError (Option Value)}
    (course : SubjectCourse vocabulary context text subject state outcome calls last) :
    (subjectValue vocabulary.functions context (String.ofList text) subject).run.run
      state = (outcome, last) := by
  cases course with
  | quoted isContent => simp only [subjectValue, isContent]; rfl
  | path isPath => simp only [subjectValue, isPath]; rfl
  | noPath noPath => simp only [subjectValue, noPath]; rfl
  | blankArgument blank => simp only [subjectValue, blank]; rfl
  | unknown isSplit noFunction => simp only [subjectValue, isSplit, noFunction]; rfl
  | @called _ _ _ _ _ _ outcome isSplit known ran =>
      simp only [subjectValue, isSplit, known]
      cases outcome with
      | error error => rw [Evaluator.run_bind_of_error ran]; rfl
      | ok value => rw [Evaluator.run_bind_of_ok ran]; rfl

theorem SubjectCourse.recorded_eq {outcome : Except EvaluationError (Option Value)}
    (course : SubjectCourse vocabulary context text subject state outcome calls last)
    (log : List Call) :
    (subjectValue (recordCalls vocabulary).functions context
      (String.ofList text) subject).run.run
      (log, state) = (outcome, log ++ calls, last) := by
  cases course with
  | quoted isContent => simp only [subjectValue, isContent, List.append_nil]; rfl
  | path isPath => simp only [subjectValue, isPath, List.append_nil]; rfl
  | noPath noPath => simp only [subjectValue, noPath, List.append_nil]; rfl
  | blankArgument blank => simp only [subjectValue, blank, List.append_nil]; rfl
  | unknown isSplit noFunction =>
      simp only [subjectValue, isSplit, recordCalls, FunctionTable.get?_map, noFunction,
        List.append_nil]
      rfl
  | @called _ _ _ _ _ _ outcome isSplit known ran =>
      simp only [subjectValue, isSplit, recordCalls, FunctionTable.get?_map, known,
        Option.map_some]
      cases outcome with
      | error error => rw [Evaluator.run_bind_of_error (record_run ran)]; rfl
      | ok value => rw [Evaluator.run_bind_of_ok (record_run ran)]; rfl

theorem course_exists (vocabulary : Vocabulary (StateM σ)) (context : Context)
    (text : List Char) (state : σ) :
    ∃ outcome calls last, Course vocabulary context text state outcome calls last := by
  cases isParts : parts? vocabulary.operators text with
  | none => exact ⟨_, _, _, .malformed isParts⟩
  | some parts =>
      rcases @subjectCourse_exists σ vocabulary context text parts.subject
        (fun _ => exists_unquote?_of_parts? isParts) state with
          ⟨outcome, calls, middle, subject⟩
      cases outcome with
      | error error => exact ⟨_, _, _, .subjectFails isParts subject⟩
      | ok value => exact ⟨_, _, _, .decided isParts subject rfl⟩

variable {condition : String} {outcome : Except EvaluationError Bool}

theorem Course.run_eq
    (course : Course vocabulary context (Text.trim condition.toList) state outcome
      calls last) :
    (evaluate vocabulary context condition).run.run state = (outcome, last) := by
  cases course with
  | malformed noParts => simp only [evaluate, noParts]; rfl
  | subjectFails isParts subject =>
      simp only [evaluate, isParts]
      rw [Evaluator.run_bind_of_error subject.run_eq]
  | decided isParts subject ran =>
      simp only [evaluate, isParts]
      rw [Evaluator.run_bind_of_ok subject.run_eq]
      exact ran

theorem Course.recorded_eq
    (course : Course vocabulary context (Text.trim condition.toList) state outcome
      calls last)
    (log : List Call) :
    (evaluate (recordCalls vocabulary) context condition).run.run (log, state) =
      (outcome, log ++ calls, last) := by
  cases course with
  | malformed noParts =>
      simp only [evaluate, recordCalls, parts?_map, noParts, Option.map_none,
        List.append_nil]
      rfl
  | subjectFails isParts subject =>
      have recorded := subject.recorded_eq log
      simp only [evaluate, recordCalls, parts?_map, isParts, Option.map_some,
        Parts.map] at recorded ⊢
      rw [Evaluator.run_bind_of_error recorded]
  | decided isParts subject ran =>
      have recorded := subject.recorded_eq log
      simp only [evaluate, recordCalls, parts?_map, isParts, Option.map_some,
        Parts.map] at recorded ⊢
      rw [Evaluator.run_bind_of_ok recorded, ← List.append_assoc]
      exact record_run ran

/-! ## What the log can hold -/

theorem SubjectCourse.calls_eq {outcome : Except EvaluationError (Option Value)}
    (course : SubjectCourse vocabulary context text subject state outcome calls last) :
    calls = [] ∨ ∃ name written arguments,
      subject = .call name written ∧ Subject.arguments? written = some arguments ∧
      (vocabulary.functions.get? (String.ofList name)).isSome ∧
      calls = [.function (ValueFunction.normalize (String.ofList name))
        ⟨arguments.map String.ofList, context⟩] := by
  cases course with
  | called isSplit known => exact .inr ⟨_, _, _, rfl, isSplit, by rw [known]; rfl, rfl⟩
  | _ => exact .inl rfl

theorem SubjectCourse.count_calls {outcome : Except EvaluationError (Option Value)}
    (course : SubjectCourse vocabulary context text subject state outcome calls last) :
    calls.countP Call.isFunction ≤ 1 ∧ calls.countP Call.isOperator = 0 := by
  rcases course.calls_eq with rfl | ⟨_, _, _, _, _, _, rfl⟩
  · exact ⟨Nat.zero_le 1, rfl⟩
  · exact ⟨Nat.le_refl 1, rfl⟩

theorem Course.count_calls
    (course : Course vocabulary context text state outcome calls last) :
    calls.countP Call.isFunction ≤ 1 ∧ calls.countP Call.isOperator ≤ 1 := by
  cases course with
  | malformed => exact ⟨Nat.zero_le 1, Nat.zero_le 1⟩
  | subjectFails _ subject =>
      exact ⟨subject.count_calls.1, subject.count_calls.2.trans_le (Nat.zero_le 1)⟩
  | decided _ subject =>
      rw [List.countP_append, List.countP_append, subject.count_calls.2]
      exact ⟨subject.count_calls.1, Nat.le_refl 1⟩

theorem Course.count_operators_of_ok {value : Bool}
    (course : Course vocabulary context text state (.ok value) calls last) :
    calls.countP Call.isOperator = 1 := by
  cases course with
  | decided _ subject =>
      rw [List.countP_append, subject.count_calls.2]
      rfl

theorem SubjectCourse.of_function_mem {outcome : Except EvaluationError (Option Value)}
    {name : String} {input : ValueFunction.Input}
    (course : SubjectCourse vocabulary context text subject state outcome calls last)
    (member : .function name input ∈ calls) : ∃ written arguments pieces,
      subject = .call written arguments ∧ Subject.arguments? arguments = some pieces ∧
      (vocabulary.functions.get? (String.ofList written)).isSome ∧
      name = ValueFunction.normalize (String.ofList written) ∧
      input = ⟨pieces.map String.ofList, context⟩ := by
  rcases course.calls_eq with
    rfl | ⟨written, arguments, pieces, isCall, isSplit, known, rfl⟩
  · cases member
  · cases List.mem_singleton.mp member
    exact ⟨_, _, _, isCall, isSplit, known, rfl, rfl⟩

theorem SubjectCourse.not_operator_mem {outcome : Except EvaluationError (Option Value)}
    {name : String} {input : Operator.Input}
    (course : SubjectCourse vocabulary context text subject state outcome calls last) :
    .operator name input ∉ calls :=
  fun member => List.countP_eq_zero.mp course.count_calls.2 _ member rfl

theorem Course.of_function_mem {name : String} {input : ValueFunction.Input}
    (course : Course vocabulary context text state outcome calls last)
    (member : .function name input ∈ calls) : ∃ parts written arguments pieces,
      parts? vocabulary.operators text = some parts ∧
      parts.subject = .call written arguments ∧
      Subject.arguments? arguments = some pieces ∧
      (vocabulary.functions.get? (String.ofList written)).isSome ∧
      name = ValueFunction.normalize (String.ofList written) ∧
      input = ⟨pieces.map String.ofList, context⟩ := by
  cases course with
  | malformed => cases member
  | subjectFails isParts subject =>
      rcases subject.of_function_mem member with ⟨_, _, _, facts⟩
      exact ⟨_, _, _, _, isParts, facts⟩
  | decided isParts subject =>
      rcases subject.of_function_mem (by simpa using member) with ⟨_, _, _, facts⟩
      exact ⟨_, _, _, _, isParts, facts⟩

theorem Course.of_operator_mem {name : String} {input : Operator.Input}
    (course : Course vocabulary context text state outcome calls last)
    (member : .operator name input ∈ calls) : ∃ parts value before middle,
      parts? vocabulary.operators text = some parts ∧
      SubjectCourse vocabulary context text parts.subject state
        (.ok value) before middle ∧
      name = Operator.normalize (String.ofList parts.operatorText) ∧
      input = parts.input context value ∧ calls = before ++ [.operator name input] := by
  cases course with
  | malformed => cases member
  | subjectFails _ subject => exact absurd member subject.not_operator_mem
  | decided isParts subject =>
      rcases List.mem_append.mp member with member | member
      · exact absurd member subject.not_operator_mem
      · cases List.mem_singleton.mp member
        exact ⟨_, _, _, _, isParts, subject, rfl, rfl, rfl⟩

end Runs

/-- A condition is evaluated in stages, and the first that fails fixes the error: the
condition is taken apart, its subject is evaluated, and one operator is called. For any
functions and operators the courses described are those that evaluation takes, with the
calls as they are logged, and the log makes no difference. No function is called unless
its arguments are split and it is found, no operator unless the subject has a value,
and neither is called twice. A quoted subject of a condition that can be taken apart
can be unquoted. -/
theorem evaluation_stages (vocabulary : Vocabulary (StateM σ)) (context : Context)
    (condition : String) (state : σ) :
    let text := Text.trim condition.toList
    (∀ outcome calls last,
      (evaluate (recordCalls vocabulary) context condition).run.run ([], state) =
          (outcome, calls, last) ↔
        Course vocabulary context text state outcome calls last) ∧
    (∀ outcome calls last, Course vocabulary context text state outcome calls last →
      (evaluate vocabulary context condition).run.run state = (outcome, last) ∧
      (calls.countP Call.isFunction ≤ 1 ∧ calls.countP Call.isOperator ≤ 1) ∧
      (∀ value, outcome = .ok value → calls.countP Call.isOperator = 1) ∧
      (∀ name input, .function name input ∈ calls → ∃ parts written arguments pieces,
        parts? vocabulary.operators text = some parts ∧
          parts.subject = .call written arguments ∧
        Subject.arguments? arguments = some pieces ∧
        (vocabulary.functions.get? (String.ofList written)).isSome ∧
        name = ValueFunction.normalize (String.ofList written) ∧
        input = ⟨pieces.map String.ofList, context⟩) ∧
      ∀ name input, .operator name input ∈ calls → ∃ parts value before middle,
        parts? vocabulary.operators text = some parts ∧
        SubjectCourse vocabulary context text parts.subject state
          (.ok value) before middle ∧
        name = Operator.normalize (String.ofList parts.operatorText) ∧
        input = parts.input context value ∧ calls = before ++ [.operator name input]) ∧
    ∀ parts quoted, parts? vocabulary.operators text = some parts →
      parts.subject = .quoted quoted →
        ∃ content, Text.unquote? quoted = some content := by
  intro text
  refine ⟨fun outcome calls last => ⟨fun ran => ?_, fun course => course.recorded_eq []⟩,
    ?_, ?_⟩
  · rcases course_exists vocabulary context text state with
      ⟨outcome', calls', last', course⟩
    have ran' := course.recorded_eq []
    rw [ran] at ran'
    cases ran'
    exact course
  · intro outcome calls last course
    refine ⟨course.run_eq, course.count_calls, ?_, fun _ _ => course.of_function_mem,
      fun _ _ => course.of_operator_mem⟩
    rintro value rfl
    exact course.count_operators_of_ok
  · exact fun parts quoted => exists_unquote?_of_parts?

/-- A function that counts its calls, and an operator that always fails. A comma too
much, and neither is called. -/
theorem evaluation_stages_of_failing_operator :
    let failing : Operator (StateM Nat) := fun _ => throw (.wrongOperand "=" "never")
    let counting : ValueFunction (StateM Nat) := fun _ => ExceptT.mk fun state =>
      (.ok .null, state + 1)
    let vocabulary : Vocabulary (StateM Nat) :=
      ⟨OperatorTable.empty.insert "=" failing,
        FunctionTable.empty.insert "count" counting⟩
    (evaluate vocabulary ⟨"", .null⟩ " Count (a) = 1").run.run 0 =
        (.error (.wrongOperand "=" "never"), 1) ∧
      Course vocabulary ⟨"", .null⟩ "Count (a,) = 1".toList 0
        (.error (.wrongArguments "Count")) [] 0 := by
  intro failing counting vocabulary
  have stages := evaluation_stages vocabulary ⟨"", .null⟩ " Count (a) = 1" 0
  have isParts : parts? vocabulary.operators "Count (a) = 1".toList =
      some ⟨.call "Count".toList ['a'], "Count (a)".toList, ['='], ['1'], failing,
        ['1']⟩ := rfl
  have isSplit : Subject.arguments? ['a'] = some [['a']] := by decide +kernel
  have known : vocabulary.functions.get? (String.ofList "Count".toList) = some counting :=
    rfl
  have ran : (counting ⟨["a"], ⟨"", .null⟩⟩).run.run 0 = (.ok .null, 1) := rfl
  have subject : SubjectCourse vocabulary ⟨"", .null⟩ "Count (a) = 1".toList
      (.call "Count".toList ['a']) 0 (.ok (some .null))
      [.function (ValueFunction.normalize "Count") ⟨["a"], ⟨"", .null⟩⟩] 1 :=
    .called isSplit known ran
  have stages' := evaluation_stages vocabulary ⟨"", .null⟩ "Count (a,) = 1" 0
  exact ⟨(stages.2.1 _ _ _ (.decided isParts subject rfl)).1, (stages'.1 _ _ _).mp rfl⟩

end Condition

end Criteria
