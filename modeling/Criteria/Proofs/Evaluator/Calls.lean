import Criteria.Evaluator

/-!
The calls that an evaluation makes.

The leaves of a tree are judged one after another, from left to right and each of them
once. The first that fails is the last one to be judged, and its error is that of the
whole; a leaf without a text fails before the judge is called. If none fails, all have
been judged, whatever their values.

A judge may have a state of its own, so that it need not say the same of a condition
twice. The log that is kept of its calls is out of its reach.
-/

namespace Criteria

namespace Expr

/-- The truth value of the tree whose leaves have these values, from left to right. -/
def fold : Expr → List Bool → Bool
  | .leaf _, values => values.headD false
  | .not inner, values => !inner.fold values
  | .connect .and left right, values =>
      left.fold (values.take left.leafCount) && right.fold (values.drop left.leafCount)
  | .connect .or left right, values =>
      left.fold (values.take left.leafCount) || right.fold (values.drop left.leafCount)

theorem fold_append {connective : Connective} {left right : Expr}
    {values others : List Bool} (size : values.length = left.leafCount) :
    (Expr.connect connective left right).fold (values ++ others) =
      connective.apply (left.fold values) (right.fold others) := by
  cases connective with
  | and => rw [fold, ← size, List.take_left, List.drop_left, Connective.apply]
  | or => rw [fold, ← size, List.take_left, List.drop_left, Connective.apply]

end Expr

namespace Evaluator

/-! ## Watching a judge -/

variable {σ : Type}

abbrev Watched (σ : Type) : Type → Type :=
  StateM (List String × σ)

abbrev StatefulJudge (σ : Type) : Type :=
  Context → String → σ → Except EvaluationError Bool × σ

/-- The judge, with each condition that it is called on at the end of the log. -/
def watch (judge : StatefulJudge σ) :
    Vocabulary (Watched σ) → Context → String →
    ExceptT EvaluationError (Watched σ) Bool :=
  fun _ context condition => ExceptT.mk fun (log, state) =>
    let (outcome, next) := judge context condition state
    (outcome, log ++ [condition], next)

theorem run_bind_of_ok {ε τ α β : Type} {action : ExceptT ε (StateM τ) α}
    {next : α → ExceptT ε (StateM τ) β} {state last : τ} {value : α}
    (ran : action.run.run state = (.ok value, last)) :
    (action >>= next).run.run state = (next value).run.run last := by
  rw [ExceptT.run_bind, StateT.run_bind, ran]
  rfl

theorem run_bind_of_error {ε τ α β : Type} {action : ExceptT ε (StateM τ) α}
    {next : α → ExceptT ε (StateM τ) β} {state last : τ} {error : ε}
    (ran : action.run.run state = (.error error, last)) :
    (action >>= next).run.run state = (.error error, last) := by
  rw [ExceptT.run_bind, StateT.run_bind, ran]
  rfl

/-! ## The two courses that the judging of some leaves can take -/

section Courses

variable (judge : StatefulJudge σ) (context : Context)

/-- All the leaves have a text, and the judge has a value for each of them, asked about
one after another. -/
inductive Passes : List Span → σ → List (List Char) → List Bool → σ → Prop
  | nil {state : σ} : Passes [] state [] [] state
  | cons {span : Span} {spans : List Span} {state next last : σ} {condition : List Char}
      {conditions : List (List Char)} {value : Bool} {values : List Bool}
      (slice : span.slice? context.expression.toList = some condition)
      (judged : judge context (String.ofList condition) state = (.ok value, next))
      (passes : Passes spans next conditions values last) :
      Passes (span :: spans) state (condition :: conditions) (value :: values) last

/-- The leaves pass up to one that fails. The conditions are those that the judge
is called on. -/
inductive Stops : List Span → σ → List (List Char) → EvaluationError → σ → Prop
  | noText {span : Span} {spans : List Span} {state : σ}
      (noSlice : span.slice? context.expression.toList = none) :
      Stops (span :: spans) state [] (.malformedCondition (toString span.start ++ ".." ++
        toString span.stop ++ " of " ++ context.expression)) state
  | failed {span : Span} {spans : List Span} {state last : σ} {condition : List Char}
      {error : EvaluationError}
      (slice : span.slice? context.expression.toList = some condition)
      (judged : judge context (String.ofList condition) state = (.error error, last)) :
      Stops (span :: spans) state [condition] error last
  | later {span : Span} {spans : List Span} {state next last : σ} {condition : List Char}
      {conditions : List (List Char)} {value : Bool} {error : EvaluationError}
      (slice : span.slice? context.expression.toList = some condition)
      (judged : judge context (String.ofList condition) state = (.ok value, next))
      (stops : Stops spans next conditions error last) :
      Stops (span :: spans) state (condition :: conditions) error last

end Courses

section Judged

variable {judge : StatefulJudge σ} {context : Context} {spans others : List Span}
  {state last : σ} {conditions : List (List Char)} {values : List Bool}
  {error : EvaluationError}

theorem passes_or_stops (judge : StatefulJudge σ) (context : Context) (spans : List Span)
    (state : σ) :
    (∃ conditions values last, Passes judge context spans state conditions values last) ∨
      ∃ conditions error last, Stops judge context spans state conditions error last := by
  induction spans generalizing state with
  | nil => exact .inl ⟨[], [], state, .nil⟩
  | cons span spans induction =>
      cases slice : span.slice? context.expression.toList with
      | none => exact .inr ⟨_, _, _, .noText slice⟩
      | some condition =>
          rcases judged : judge context (String.ofList condition) state with
            ⟨_ | value, next⟩
          · exact .inr ⟨_, _, _, .failed slice judged⟩
          · rcases induction next with ⟨_, _, _, passes⟩ | ⟨_, _, _, stops⟩
            · exact .inl ⟨_, _, _, .cons slice judged passes⟩
            · exact .inr ⟨_, _, _, .later slice judged stops⟩

theorem Passes.length_values
    (passes : Passes judge context spans state conditions values last) :
    values.length = spans.length := by
  induction passes with
  | nil => rfl
  | cons _ _ _ induction => rw [List.length_cons, List.length_cons, induction]

theorem Passes.conditions_eq
    (passes : Passes judge context spans state conditions values last) :
    conditions = spans.filterMap (·.slice? context.expression.toList) ∧
      conditions.length = spans.length := by
  induction passes with
  | nil => exact ⟨rfl, rfl⟩
  | cons slice _ _ induction =>
      rw [List.filterMap_cons, slice, List.length_cons, List.length_cons, induction.2]
      exact ⟨congrArg _ induction.1, rfl⟩

theorem Passes.exists_split
    (passes : Passes judge context (spans ++ others) state conditions values last) :
    ∃ front back first second middle, conditions = front ++ back ∧
      values = first ++ second ∧
      Passes judge context spans state front first middle ∧
      Passes judge context others middle back second last := by
  induction spans generalizing state conditions values with
  | nil => exact ⟨[], conditions, [], values, state, rfl, rfl, .nil, passes⟩
  | cons span spans induction =>
      cases passes with
      | cons slice judged passes =>
          rcases induction passes with
            ⟨front, back, first, second, middle, rfl, rfl, left, right⟩
          exact ⟨_ :: front, back, _ :: first, second, middle, rfl, rfl,
            .cons slice judged left, right⟩

theorem Stops.append_cases
    (stops : Stops judge context (spans ++ others) state conditions error last) :
    Stops judge context spans state conditions error last ∨
      ∃ front back values middle, conditions = front ++ back ∧
        Passes judge context spans state front values middle ∧
        Stops judge context others middle back error last := by
  induction spans generalizing state conditions with
  | nil => exact .inr ⟨[], conditions, [], state, rfl, .nil, stops⟩
  | cons span spans induction =>
      cases stops with
      | noText noSlice => exact .inl (.noText noSlice)
      | failed slice judged => exact .inl (.failed slice judged)
      | later slice judged stops =>
          rcases induction stops with
            stops | ⟨front, back, values, middle, rfl, passes, stops⟩
          · exact .inl (.later slice judged stops)
          · exact .inr ⟨_ :: front, back, _ :: values, middle, rfl,
              .cons slice judged passes, stops⟩

/-! ## An evaluation takes the course of its leaves -/

variable {evaluator : Evaluator (Watched σ)}

theorem evaluateLeaf_watch (watched : evaluator.judge = watch judge) {span : Span}
    {condition : List Char}
    (slice : span.slice? context.expression.toList = some condition) (log : List String)
    (state : σ) :
    (evaluator.evaluateLeaf context context.expression.toList span).run.run (log, state) =
      ((judge context (String.ofList condition) state).1,
        log ++ [String.ofList condition],
        (judge context (String.ofList condition) state).2) := by
  rw [evaluateLeaf, slice, watched]
  rfl

theorem evaluate_of_passes (watched : evaluator.judge = watch judge) {expr : Expr}
    (passes : Passes judge context expr.leaves state conditions values last)
    (log : List String) :
    (expr.evaluate (evaluator.evaluateLeaf context context.expression.toList)).run.run
        (log, state) =
      (.ok (expr.fold values), log ++ conditions.map String.ofList, last) := by
  induction expr generalizing state conditions values last log with
  | leaf span =>
      cases passes with
      | cons slice judged passes =>
          cases passes with
          | nil =>
              rw [Expr.evaluate, evaluateLeaf_watch watched slice, judged]
              rfl
  | not inner induction =>
      rw [Expr.evaluate, run_bind_of_ok (induction passes log)]
      rfl
  | connect connective left right leftInduction rightInduction =>
      rcases passes.exists_split with
        ⟨front, back, first, second, middle, rfl, rfl, left', right'⟩
      have size := left'.length_values.trans left.length_leaves
      rw [Expr.evaluate, run_bind_of_ok (leftInduction left' log),
        run_bind_of_ok (rightInduction right' _), Expr.fold_append size, List.map_append,
        ← List.append_assoc]
      rfl

theorem evaluate_of_stops (watched : evaluator.judge = watch judge) {expr : Expr}
    (stops : Stops judge context expr.leaves state conditions error last)
    (log : List String) :
    (expr.evaluate (evaluator.evaluateLeaf context context.expression.toList)).run.run
        (log, state) =
      (.error error, log ++ conditions.map String.ofList, last) := by
  induction expr generalizing state conditions last log with
  | leaf span =>
      cases stops with
      | noText noSlice =>
          rw [Expr.evaluate, evaluateLeaf, noSlice, List.map_nil, List.append_nil]
          rfl
      | failed slice judged =>
          rw [Expr.evaluate, evaluateLeaf_watch watched slice, judged]
          rfl
      | later _ _ stops => cases stops
  | not inner induction => rw [Expr.evaluate, run_bind_of_error (induction stops log)]
  | connect connective left right leftInduction rightInduction =>
      rcases stops.append_cases with
        stops | ⟨front, back, values, middle, rfl, passes, stops⟩
      · rw [Expr.evaluate, run_bind_of_error (leftInduction stops log)]
      · rw [Expr.evaluate, run_bind_of_ok (evaluate_of_passes watched passes log),
          run_bind_of_error (rightInduction stops _), List.map_append,
          ← List.append_assoc]

end Judged

/-- An expression that cannot be read has nothing evaluated. For the tree of any other,
whatever its spans, the judge is called on the texts of the leaves in their order, once
each: on all of them if they pass, and then the value is the fold of theirs, or up to
the first that fails, and then the error is that of this leaf. -/
theorem evaluate_calls (vocabulary : Vocabulary (Watched σ))
    (read : String → Except EvaluationError Expr) (judge : StatefulJudge σ)
    (expression : String) (object : Value) (state : σ) :
    (∀ (m : Type → Type) [Monad m] (evaluator : Evaluator m) error,
      evaluator.read expression = .error error →
        (evaluator.evaluate expression object).run = pure (.error error)) ∧
    ∀ tree, read expression = .ok tree →
      let evaluator : Evaluator (Watched σ) := ⟨vocabulary, read, watch judge⟩
      let context : Context := ⟨expression, object⟩
      ((∃ conditions values last,
          Passes judge context tree.leaves state conditions values last) ∨
        ∃ conditions error last,
          Stops judge context tree.leaves state conditions error last) ∧
      (∀ conditions values last,
        Passes judge context tree.leaves state conditions values last →
        conditions = tree.leafTexts expression.toList ∧
          conditions.length = tree.leafCount ∧
        (evaluator.evaluate expression object).run.run ([], state) =
          (.ok (tree.fold values), conditions.map String.ofList, last)) ∧
      ∀ conditions error last,
        Stops judge context tree.leaves state conditions error last →
        (evaluator.evaluate expression object).run.run ([], state) =
          (.error error, conditions.map String.ofList, last) := by
  refine ⟨?_, ?_⟩
  · intro m monad evaluator error faulty
    rw [evaluate, faulty]
    rfl
  intro tree isTree evaluator context
  have evaluated : evaluator.evaluate expression object =
      tree.evaluate (evaluator.evaluateLeaf context context.expression.toList) := by
    have isRead : evaluator.read expression = .ok tree := isTree
    rw [evaluate, isRead]
  rw [evaluated]
  refine ⟨passes_or_stops judge context tree.leaves state, ?_, ?_⟩
  · intro conditions values last passes
    have texts := passes.conditions_eq
    exact ⟨texts.1, texts.2.trans tree.length_leaves, evaluate_of_passes rfl passes []⟩
  · intro conditions error last stops
    exact evaluate_of_stops rfl stops []

/-- A judge whose answers alternate. A left side that is true does not save `OR` its
right one; asked about the same condition again the judge says something else. It is
never asked about the last of four leaves, for the one before cuts a character. Of two
leaves that have texts the right one decides, against `AND` from one state and for `OR`
from the next. -/
theorem evaluate_calls_of_cut_character :
    let judge : StatefulJudge Nat := fun _ _ state => (.ok (state % 2 == 0), state + 1)
    let cut : Expr := .connect .or (.connect .or (.leaf ⟨0, 1⟩) (.not (.leaf ⟨0, 1⟩)))
      (.connect .and (.leaf ⟨1, 2⟩) (.leaf ⟨3, 4⟩))
    let pair (connective : Connective) : Expr :=
      .connect connective (.leaf ⟨0, 1⟩) (.leaf ⟨3, 4⟩)
    let evaluate (tree : Expr) (state : Nat) :=
      (Evaluator.evaluate ⟨⟨.empty, .empty⟩, fun _ => .ok tree, watch judge⟩ "aéb"
        .null).run.run ([], state)
    evaluate cut 0 = (.error (.malformedCondition "1..2 of aéb"), ["a", "a"], 2) ∧
      evaluate (pair .and) 0 = (.ok false, ["a", "b"], 2) ∧
      evaluate (pair .or) 1 = (.ok true, ["a", "b"], 3) := by
  intro judge cut pair evaluate
  have first : Span.slice? ⟨0, 1⟩ "aéb".toList = some ['a'] := by decide +kernel
  have noSlice : Span.slice? ⟨1, 2⟩ "aéb".toList = none := by decide +kernel
  have second : Span.slice? ⟨3, 4⟩ "aéb".toList = some ['b'] := by decide +kernel
  have stops :
      Stops judge ⟨"aéb", .null⟩ [⟨0, 1⟩, ⟨0, 1⟩, ⟨1, 2⟩, ⟨3, 4⟩] 0 [['a'], ['a']]
      (.malformedCondition "1..2 of aéb") 2 :=
    .later first rfl (.later first rfl (.noText noSlice))
  have passes : ∀ state, Passes judge ⟨"aéb", .null⟩ [⟨0, 1⟩, ⟨3, 4⟩] state [['a'], ['b']]
      [state % 2 == 0, (state + 1) % 2 == 0] (state + 2) :=
    fun _ => .cons first rfl (.cons second rfl .nil)
  have courses (tree : Expr) (state : Nat) :=
    (evaluate_calls ⟨.empty, .empty⟩ (fun _ => .ok tree) judge "aéb" .null state).2 tree
      rfl
  exact ⟨(courses cut 0).2.2 _ _ _ stops,
    ((courses (pair .and) 0).2.1 _ _ _ (passes 0)).2.2,
    ((courses (pair .or) 1).2.1 _ _ _ (passes 1)).2.2⟩

end Evaluator

end Criteria
