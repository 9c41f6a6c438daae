import Criteria.Evaluator
import Criteria.Proofs.Offset.Condition
import Criteria.Proofs.Offset.Level

/-!
Evaluating expressions at byte offsets.

An evaluation at offsets takes the steps of the evaluation, and each of its slices,
subtractions and entries of lists may be a trap. It comes to what the evaluation comes
to, so none of them is.
-/

namespace Criteria.Offset

variable {m : Type → Type} [Monad m] {Result Result' : Type}

/-! ## Evaluations with traps -/

def step (outcome : Checked Result) : ExceptT Interrupt m Result :=
  ExceptT.mk (pure outcome)

def untrapped (evaluation : ExceptT EvaluationError m Result) :
    ExceptT Interrupt m Result :=
  ExceptT.mk (sound <$> evaluation.run)

section Lawful

variable [LawfulMonad m]

theorem step_ok_bind (result : Result) (next : Result → ExceptT Interrupt m Result') :
    (step (.ok result) >>= next) = next result := by
  apply ExceptT.ext
  simp [step, ExceptT.run_bind]

theorem step_error_bind (interrupt : Interrupt)
    (next : Result → ExceptT Interrupt m Result') :
    (step (.error interrupt) >>= next) = throw interrupt := by
  apply ExceptT.ext
  simp [step, ExceptT.run_bind]

theorem untrapped_pure (result : Result) :
    untrapped (pure result : ExceptT EvaluationError m Result) = pure result := by
  apply ExceptT.ext
  simp [untrapped]

theorem untrapped_throw (error : EvaluationError) :
    untrapped (throw error : ExceptT EvaluationError m Result) =
      throw (.error error) := by
  apply ExceptT.ext
  simp [untrapped]

theorem untrapped_bind (first : ExceptT EvaluationError m Result)
    (next : Result → ExceptT EvaluationError m Result') :
    untrapped (first >>= next) = untrapped first >>= fun result =>
      untrapped (next result) := by
  apply ExceptT.ext
  simp only [untrapped, ExceptT.run_bind, ExceptT.run_mk, map_bind, bind_map_left]
  congr 1
  funext outcome
  cases outcome <;> simp

end Lawful

/-! ## Conditions -/

def subjectValue (functions : FunctionTable m) (context : Context) (condition : String) :
    Subject → ExceptT Interrupt m (Option Value)
  | .call name written => do
      match ← step (arguments? written), functions.get? (String.ofList name) with
      | none, _ => throw (.error (.wrongArguments (String.ofList name)))
      | some _, none => throw (.error (.unknownFunction (String.ofList name)))
      | some arguments, some function => do
          let value ← untrapped
            (function { arguments := arguments.map String.ofList, context })
          return some value
  | subject => untrapped (Condition.subjectValue functions context condition subject)

def evaluateCondition (vocabulary : Vocabulary m) (context : Context)
    (condition : String) :
    ExceptT Interrupt m Bool := do
  let text := Text.trim condition.toList
  match ← step (parts? vocabulary.operators text) with
  | none => throw (.error (.malformedCondition (String.ofList text)))
  | some parts => do
      let value ←
        subjectValue vocabulary.functions context (String.ofList text) parts.subject
      untrapped (parts.operator {
        value
        literal := String.ofList parts.literal
        tokens :=
          [parts.subjectText, parts.operatorText, parts.literalText].map String.ofList
        context })

theorem balanced_of_read? {text name written subjectText after : List Char}
    (isCall : Subject.read? text = some (.call name written, subjectText, after)) :
    Nesting.Balanced written := by
  cases Subject.reads_of_read? isCall with
  | call _ _ closed => exact (Nesting.untilClosing?_split closed).2

section Conditions

variable [LawfulMonad m]

theorem subjectValue_eq (functions : FunctionTable m) (context : Context)
    (condition : String) {subject : Subject}
    (balanced : ∀ name written, subject = .call name written → Nesting.Balanced written) :
    subjectValue functions context condition subject =
      untrapped (Condition.subjectValue functions context condition subject) := by
  cases subject with
  | quoted text => rfl
  | path text => rfl
  | call name written =>
      rw [subjectValue, arguments?_eq (balanced _ _ rfl), step_ok_bind,
        Condition.subjectValue]
      cases Subject.arguments? written with
      | none => exact (untrapped_throw _).symm
      | some arguments =>
          cases functions.get? (String.ofList name) with
          | none => exact (untrapped_throw _).symm
          | some function =>
              simp only [untrapped_bind, untrapped_pure]

theorem evaluateCondition_eq (vocabulary : Vocabulary m) (context : Context)
    (condition : String) :
    evaluateCondition vocabulary context condition =
      untrapped (Condition.evaluate vocabulary context condition) := by
  simp only [evaluateCondition, parts?_eq, step_ok_bind, Condition.evaluate]
  cases isParts : Condition.parts? vocabulary.operators (Text.trim condition.toList) with
  | none => exact (untrapped_throw _).symm
  | some parts =>
      have balanced : ∀ name written, parts.subject = .call name written →
          Nesting.Balanced written := by
        intro name written isCall
        rcases Condition.finds_of_parts? isParts with ⟨isSubject, _, _⟩
        cases isCall
        exact balanced_of_read? isSubject
      simp only [subjectValue_eq _ _ _ balanced, untrapped_bind]

end Conditions

/-! ## Expressions -/

def evaluateLeaf (vocabulary : Vocabulary m) (context : Context) (text : List Char)
    (span : Span) :
    ExceptT Interrupt m Bool :=
  match span.slice? text with
  | some condition => evaluateCondition vocabulary context (String.ofList condition)
  | none => throw (.error (Evaluator.invalidSpan context.expression span))

def evaluate (vocabulary : Vocabulary m) (expression : String) (object : Value) :
    ExceptT Interrupt m Bool := do
  let text := expression.toList
  let tree ← step (read text ⟨0, Text.byteSize text⟩)
  tree.evaluate (evaluateLeaf vocabulary ⟨expression, object⟩ text)

theorem read_whole_eq (source : List Char) :
    read source ⟨0, Text.byteSize source⟩ = sound (Expr.read source) :=
  read_eq ⟨[], [], by simp, rfl, (Nat.zero_add _).symm⟩

section Expressions

variable [LawfulMonad m]

theorem evaluateLeaf_eq (vocabulary : Vocabulary m) (context : Context) (text : List Char)
    (span : Span) : evaluateLeaf vocabulary context text span =
      untrapped ((Evaluator.ofVocabulary vocabulary).evaluateLeaf context text span) := by
  rw [evaluateLeaf, Evaluator.evaluateLeaf]
  cases span.slice? text with
  | none => exact (untrapped_throw _).symm
  | some condition => exact evaluateCondition_eq vocabulary context _

theorem evaluate_tree_eq (judge : Span → ExceptT EvaluationError m Bool) (tree : Expr) :
    tree.evaluate (fun span => untrapped (judge span)) =
      untrapped (tree.evaluate judge) := by
  induction tree with
  | leaf span => rfl
  | not inner induction =>
      simp only [Expr.evaluate, induction, untrapped_bind, untrapped_pure]
  | connect connective left right leftInduction rightInduction =>
      simp only [Expr.evaluate, leftInduction, rightInduction, untrapped_bind,
        untrapped_pure]

theorem evaluate_leaves_eq (vocabulary : Vocabulary m) (context : Context)
    (text : List Char) (tree : Expr) :
    tree.evaluate (evaluateLeaf vocabulary context text) =
      untrapped (tree.evaluate
        ((Evaluator.ofVocabulary vocabulary).evaluateLeaf context text)) := by
  rw [← evaluate_tree_eq]
  congr 1
  funext span
  exact evaluateLeaf_eq vocabulary context text span

theorem evaluate_eq (vocabulary : Vocabulary m) (expression : String) (object : Value) :
    evaluate vocabulary expression object =
      untrapped ((Evaluator.ofVocabulary vocabulary).evaluate expression object) := by
  have sameReader : (Evaluator.ofVocabulary vocabulary).read expression =
      Expr.read expression.toList := rfl
  simp only [evaluate, read_whole_eq, Evaluator.evaluate, sameReader]
  cases Expr.read expression.toList with
  | error error =>
      rw [sound_error, step_error_bind]
      exact (untrapped_throw _).symm
  | ok tree =>
      rw [sound_ok, step_ok_bind]
      exact evaluate_leaves_eq vocabulary _ _ tree

end Expressions

theorem run_untrapped_ne_trap (evaluation : ExceptT EvaluationError Id Result)
    (trap : Trap) :
    (untrapped evaluation).run ≠ .error (.trap trap) :=
  sound_ne_trap evaluation.run trap

/-! ## No traps -/

/-- There is no trap in an evaluation, whatever the expression, the object, the
operators and the functions are. All slices are parts of the text, no difference is
negative, and with the standard vocabulary an evaluation comes to a truth value or to an
error of the expression. -/
theorem evaluation_has_no_trap [LawfulMonad m] :
    -- A slice is a trap unless its offsets are those of a part, and a difference if it
    -- is negative.
    ((∀ text span, slice text span = .error (.trap .slice) ↔
        ∀ part, ¬ span.Covers text part) ∧
      ∀ left right, minus left right = .error (.trap .negative) ↔ left < right) ∧
    -- Expressions are read, and conditions and calls are taken apart.
    (∀ source, read source ⟨0, Text.byteSize source⟩ = sound (Expr.read source)) ∧
    (∀ (operators : OperatorTable m) condition,
      parts? operators condition = .ok (Condition.parts? operators condition)) ∧
    (∀ condition name written subjectText after,
      Subject.read? condition = some (.call name written, subjectText, after) →
      arguments? written = .ok (Subject.arguments? written)) ∧
    -- Conditions, the leaves of any tree, and expressions are evaluated.
    (∀ (vocabulary : Vocabulary m) context condition,
      evaluateCondition vocabulary context condition =
        untrapped (Condition.evaluate vocabulary context condition)) ∧
    (∀ (vocabulary : Vocabulary m) context text (tree : Expr),
      tree.evaluate (evaluateLeaf vocabulary context text) =
        untrapped (tree.evaluate
          ((Evaluator.ofVocabulary vocabulary).evaluateLeaf context text))) ∧
    (∀ (vocabulary : Vocabulary m) expression object,
      evaluate vocabulary expression object =
        untrapped ((Evaluator.ofVocabulary vocabulary).evaluate expression object)) ∧
    -- The standard operators and functions do nothing besides.
    let vocabulary := (Evaluator.standard : Evaluator Id).vocabulary
    (∀ context condition trap,
      (evaluateCondition vocabulary context condition).run ≠ .error (.trap trap)) ∧
    (∀ context text (tree : Expr) trap,
      (tree.evaluate (evaluateLeaf vocabulary context text)).run ≠ .error (.trap trap)) ∧
    ∀ expression object,
      (evaluate vocabulary expression object).run =
        sound (Criteria.evaluate expression object) := by
  refine ⟨⟨fun _ _ => slice_eq_trap_iff, fun _ _ => minus_eq_trap_iff⟩, read_whole_eq,
    parts?_eq, ?_, evaluateCondition_eq, evaluate_leaves_eq, evaluate_eq, ?_, ?_, ?_⟩
  · intro condition name written subjectText after isCall
    exact arguments?_eq (balanced_of_read? isCall)
  · intro context condition
    rw [evaluateCondition_eq]
    exact run_untrapped_ne_trap _
  · intro context text tree
    rw [evaluate_leaves_eq]
    exact run_untrapped_ne_trap _
  · intro expression object
    rw [evaluate_eq]
    rfl

theorem evaluation_has_no_trap_of_wide_characters :
    Subject.read? "LEN(é, (ü)) = 0".toList =
        some (.call "LEN".toList "é, (ü)".toList, "LEN(é, (ü))".toList, " = 0".toList) ∧
      arguments? "é, (ü)".toList = .ok (some ["é".toList, "(ü)".toList]) ∧
      (evaluate (Evaluator.standard : Evaluator Id).vocabulary "(é=ü)or 名 is not null"
        (.map [("名", .bool true)])).run = .ok true ∧
      ((Expr.leaf ⟨1, 2⟩).evaluate
        (evaluateLeaf (Evaluator.standard : Evaluator Id).vocabulary
        ⟨"é", .null⟩ "é".toList)).run =
          .error (.error (.malformedCondition "1..2 of é")) := by
  have isCall : Subject.read? "LEN(é, (ü)) = 0".toList =
      some (.call "LEN".toList "é, (ü)".toList, "LEN(é, (ü))".toList, " = 0".toList) := by
    decide +kernel
  rcases @evaluation_has_no_trap Id _ _ with
    ⟨_, _, _, arguments, _, leaves, _, _, _, whole⟩
  refine ⟨isCall, ?_, ?_, ?_⟩
  · rw [arguments _ _ _ _ _ isCall]
    decide +kernel
  · have holds : Criteria.evaluate "(é=ü)or 名 is not null" (.map [("名", .bool true)]) =
        .ok true := by
      decide +kernel
    rw [whole, holds]
    rfl
  · rw [leaves]
    rfl

end Criteria.Offset
