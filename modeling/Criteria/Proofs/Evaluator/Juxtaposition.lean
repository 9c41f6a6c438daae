import Criteria.Proofs.Condition.Parts
import Criteria.Proofs.Evaluator.Composition
import Criteria.Proofs.Expr.Operands

/-!
Two expressions in a row, without a connective between them.

The last operand of the first expression and the first operand of the second one become
one operand. That is a group with more behind it, which cannot be read, or a single
leaf, and then this leaf is a condition that goes on with the beginning of another one.
-/

namespace Criteria

open Level (Reads operands)
open Term (Tiled)

variable {m : Type → Type}

/-! ## Trees whose leaves are conditions -/

def Expr.HasConditions (operators : OperatorTable m) (text : List Char) (expr : Expr) :
    Prop :=
  ∀ span ∈ expr.leaves, ∃ condition parts, span.Covers text condition ∧
    Text.IsTrimmed condition ∧ Condition.parts? operators condition = some parts

theorem Level.Reads.begins {operators : OperatorTable m} {text after : List Char}
    {terms : List Term} {expr : Expr} {last : Term} (reads : Reads .operand terms expr)
    (tiled : Tiled 0 text terms) (isLast : terms.getLast? = some last)
    (ended : Text.byteSize text = last.stop)
    (conditions : expr.HasConditions operators (text ++ after)) :
    ∃ gap rest, text = gap ++ rest ∧ Text.allBlank gap = true ∧ Text.IsTrimmed rest ∧
      Condition.Begins operators rest := by
  cases terms with
  | nil => cases isLast
  | cons first others =>
      rw [List.getLast?_cons, Option.some.injEq, ← List.getLastD_eq_getLast?] at isLast
      rcases Level.covers_run tiled.laid with ⟨rest, covers, trimmed⟩
      rcases tiled.exists_head with ⟨gap, more, headEqual, blank, size, ends, _⟩
      rw [isLast] at covers
      have located := covers
      rcases located with ⟨before, behind, equal, start, stop⟩
      have whole : before ++ rest = text := by
        have sameEnd :
            (before ++ rest) ++ behind = text ++ [] := by rw [List.append_nil, equal]
        apply (Text.append_inj_of_byteSize sameEnd _).1
        rw [Text.byteSize_append, ended]
        exact stop.symm
      rcases Text.append_inj_of_byteSize (whole.trans headEqual)
        (start.symm.trans (size.symm.trans (Nat.zero_add _))) with ⟨rfl, restEq⟩
      refine ⟨before, rest, whole.symm, blank, trimmed, ?_⟩
      have wellFormed := tiled.wellFormed List.mem_cons_self
      rcases reads.operand_cases with ⟨kind, _⟩ | ⟨kind, _⟩ | ⟨_, rfl⟩
      · have notGroup : first.kind ≠ .group := by simp [kind]
        have isKeyword := wellFormed.keyword?_eq notGroup (by simp [kind])
        rw [kind] at isKeyword
        rw [restEq]
        exact .negation isKeyword (ends notGroup)
      · rw [restEq, (wellFormed.of_group kind).1]
        exact .parenthesis
      · rw [isLast] at conditions
        rcases conditions _ (List.mem_singleton_self _) with
          ⟨condition, parts, coversCondition, _, found⟩
        rw [(covers.append after).unique coversCondition]
        exact .condition found

theorem Term.Tiled.juxtapose {left gap right : List Char} {terms others : List Term}
    (leftTiled : Tiled 0 left terms) (rightTiled : Tiled 0 right others)
    (blank : Text.allBlank gap = true) (apart : gap ≠ []) :
    Tiled 0 (left ++ gap ++ right)
      (terms ++ others.map (Term.shift (Text.byteSize (left ++ gap)))) := by
  have moved := rightTiled.shift (Text.byteSize (left ++ gap))
  rw [Nat.add_zero, Text.byteSize_append, ← Nat.zero_add (Text.byteSize left)] at moved
  rw [List.append_assoc, Text.byteSize_append, ← Nat.zero_add (Text.byteSize left)]
  exact leftTiled.append (Term.isBlank_of_head_gap blank apart) (moved.blanks blank)

/-- The leaf in which two texts meet is no condition. -/
theorem Expr.not_hasConditions_append {operators : OperatorTable m}
    {left gap right : List Char} {leftExpr rightExpr expr : Expr}
    (short : operators.longestKeyword ≤ 2) (leftRead : read left = .ok leftExpr)
    (leftConditions : leftExpr.HasConditions operators left)
    (rightRead : read right = .ok rightExpr)
    (rightConditions : rightExpr.HasConditions operators right)
    (blank : Text.allBlank gap = true) (apart : gap ≠ [])
    (result : read (left ++ gap ++ right) = .ok expr) :
    ¬ expr.HasConditions operators (left ++ gap ++ right) := by
  intro conditions
  rcases read_eq_ok_iff.mp leftRead with ⟨leftTerms, leftTiled, leftReads⟩
  rcases read_eq_ok_iff.mp rightRead with ⟨rightTerms, rightTiled, rightReads⟩
  rcases read_eq_ok_iff.mp result with ⟨terms, tiled, reads⟩
  have same := (Term.split_eq_ok_iff.mpr tiled).symm.trans
    (Term.split_eq_ok_iff.mpr (leftTiled.juxtapose rightTiled blank apart))
  cases same
  rcases leftReads.exists_joined rightReads reads with
    ⟨back, after, backExpr, start, last, final, rfl, backReads, backLeaves, isLast,
    leftLeaf, isFinal, joinedLeaf⟩
  rcases leftConditions _ leftLeaf with
    ⟨condition, parts, ⟨before, behind, leftEq, startEq, stopEq⟩, _, found⟩
  rcases conditions _ joinedLeaf with ⟨joined, joinedParts, coversJoined, _, foundJoined⟩
  rcases rightTiled.exists_split with ⟨back', after', rfl, backTiled, _, ended⟩
  have blankBehind : Text.allBlank behind = true := by
    apply leftTiled.allBlank_after isLast leftEq
    rw [Nat.zero_add, Text.byteSize_append]
    exact stopEq.symm
  have backEnded : Text.byteSize back' = final.stop :=
    (Nat.zero_add _).symm.trans (ended final isFinal)
  rcases backReads.begins backTiled isFinal backEnded
    (fun span member => rightConditions span (backLeaves span member)) with
    ⟨lead, rest, rfl, blankLead, trimmed, begins⟩
  have joinedEq : joined = condition ++ (behind ++ gap ++ lead) ++ rest := by
    apply coversJoined.unique
    refine ⟨before, after', ?_, startEq, ?_⟩
    · simp only [leftEq, List.append_assoc]
    · simp only [← backEnded, leftEq, Text.byteSize_append]
      omega
  have blankBetween : Text.allBlank (behind ++ gap ++ lead) = true :=
    Text.allBlank_append (Text.allBlank_append blankBehind blank) blankLead
  have none :=
    Condition.parts?_append_eq_none short found blankBetween (by simp [apart]) begins
    trimmed
  rw [joinedEq, none] at foundJoined
  cases foundJoined

theorem Expr.exists_evaluate_iff {ε : Type} {judge : Span → ExceptT ε Id Bool}
    {expr : Expr} :
    (∃ value, expr.evaluate judge = .ok value) ↔
      ∀ span ∈ expr.leaves, ∃ value, judge span = .ok value := by
  induction expr with
  | leaf span => simp [evaluate, leaves]
  | not inner induction =>
      rw [leaves, ← induction, evaluate]
      cases inner.evaluate judge with
      | error error =>
          constructor
          · rintro ⟨_, failed⟩
            cases failed
          · rintro ⟨_, failed⟩
            cases failed
      | ok value => exact ⟨fun _ => ⟨value, rfl⟩, fun _ => ⟨!value, rfl⟩⟩
  | connect connective left right leftInduction rightInduction =>
      rw [leaves, List.forall_mem_append, ← leftInduction, ← rightInduction, evaluate]
      cases left.evaluate judge with
      | error error =>
          constructor
          · rintro ⟨_, failed⟩
            cases failed
          · rintro ⟨⟨_, failed⟩, _⟩
            cases failed
      | ok leftValue =>
          cases right.evaluate judge with
          | error error =>
              constructor
              · rintro ⟨_, failed⟩
                cases failed
              · rintro ⟨_, _, failed⟩
                cases failed
          | ok rightValue =>
              exact ⟨fun _ => ⟨⟨leftValue, rfl⟩, rightValue, rfl⟩, fun _ => ⟨_, rfl⟩⟩

theorem Condition.exists_parts_of_evaluate {vocabulary : Vocabulary Id}
    {context : Context} {condition : List Char} {value : Bool}
    (trimmed : Text.IsTrimmed condition)
    (evaluated : evaluate vocabulary context (String.ofList condition) = .ok value) :
    ∃ parts, parts? vocabulary.operators condition = some parts := by
  cases found : parts? vocabulary.operators condition with
  | some parts => exact ⟨parts, rfl⟩
  | none =>
      rw [evaluate, String.toList_ofList, trimmed.trim_eq] at evaluated
      simp only [found] at evaluated
      cases evaluated

namespace Evaluator

variable {vocabulary : Vocabulary Id} {object : Value}

theorem exists_read_of_evaluate {text : List Char} {value : Bool}
    (evaluated : (ofVocabulary vocabulary).evaluate (String.ofList text) object =
      .ok value) :
    ∃ expr, Expr.read text = .ok expr ∧ expr.HasConditions vocabulary.operators text := by
  cases result : Expr.read text with
  | error error =>
      rw [evaluate_of_read_error result] at evaluated
      cases evaluated
  | ok expr =>
      refine ⟨expr, rfl, ?_⟩
      rw [evaluate_of_read result] at evaluated
      rcases Expr.read_eq_ok_iff.mp result with ⟨terms, tiled, reads⟩
      intro span member
      rcases reads.covers tiled.laid span member with ⟨condition, covers, trimmed⟩
      rcases Expr.exists_evaluate_iff.mp ⟨value, evaluated⟩ span member with
        ⟨leafValue, judged⟩
      rw [evaluateLeaf, covers.slice?_eq] at judged
      rcases Condition.exists_parts_of_evaluate trimmed judged with ⟨parts, found⟩
      exact ⟨condition, parts, covers, trimmed, found⟩

theorem exists_evaluate_negation {gap text : List Char} {value : Bool}
    (ignores : vocabulary.IgnoresExpression) (blank : Text.allBlank gap = true)
    (apart : gap ≠ [])
    (evaluated : (ofVocabulary vocabulary).evaluate (String.ofList text) object =
      .ok value) :
    ∃ negated, (ofVocabulary vocabulary).evaluate
      (String.ofList ("NOT".toList ++ gap ++ text)) object = .ok negated := by
  rcases exists_read_of_evaluate evaluated with ⟨expr, result, _⟩
  rcases Expr.read_eq_ok_iff.mp result with ⟨terms, tiled, reads⟩
  have kind : (⟨.negation, 0, "NOT".toList⟩ : Term).kind = .negation := rfl
  rcases (reads.shift (Text.byteSize ("NOT".toList ++ gap))).exists_negation kind with
    ⟨negated, readsNegated, leaves⟩
  have moved := tiled.shift (Text.byteSize ("NOT".toList ++ gap))
  have size : Text.byteSize ("NOT".toList ++ gap) + 0 =
      0 + Text.byteSize "NOT".toList + Text.byteSize gap := by
    rw [Text.byteSize_append, Nat.zero_add]
    rfl
  rw [size] at moved
  have tiledNegated := moved.keyword rfl blank (.inl apart)
  rw [← List.append_assoc] at tiledNegated
  have whole : "NOT".toList ++ gap ++ text = ("NOT".toList ++ gap) ++ text ++ [] :=
    (List.append_nil _).symm
  have part := (evaluate_part ignores result whole object).trans evaluated
  rw [evaluate_of_read (Expr.read_eq_ok_iff.mpr ⟨_, tiledNegated, readsNegated⟩),
    Expr.exists_evaluate_iff, leaves, ← Expr.exists_evaluate_iff]
  exact ⟨value, part⟩

theorem exists_error_of_juxtaposed {left gap right : List Char}
    {leftValue rightValue : Bool} (short : vocabulary.operators.longestKeyword ≤ 2)
    (leftEvaluated : (ofVocabulary vocabulary).evaluate (String.ofList left) object =
      .ok leftValue)
    (rightEvaluated :
      (ofVocabulary vocabulary).evaluate (String.ofList right) object = .ok rightValue)
    (blank : Text.allBlank gap = true) (apart : gap ≠ []) :
    ∃ error, (ofVocabulary vocabulary).evaluate
      (String.ofList (left ++ gap ++ right)) object = .error error := by
  rcases exists_read_of_evaluate leftEvaluated with ⟨leftExpr, leftRead, leftConditions⟩
  rcases exists_read_of_evaluate rightEvaluated with
    ⟨rightExpr, rightRead, rightConditions⟩
  cases outcome :
      (ofVocabulary vocabulary).evaluate (String.ofList (left ++ gap ++ right))
        object with
  | error error => exact ⟨error, rfl⟩
  | ok value =>
      rcases exists_read_of_evaluate outcome with ⟨expr, result, conditions⟩
      exact absurd conditions
        (Expr.not_hasConditions_append short leftRead leftConditions rightRead
        rightConditions blank apart result)

end Evaluator

/-- A missing connective is an error, with and without `NOT` before the second
expression. -/
theorem evaluate_juxtaposed {left right gap : List Char} {leftValue rightValue : Bool}
    {object : Value}
    (leftEvaluated : evaluate (String.ofList left) object = .ok leftValue)
    (rightEvaluated : evaluate (String.ofList right) object = .ok rightValue)
    (blank : Text.allBlank gap = true) (apart : gap ≠ []) :
    (∃ error, evaluate (String.ofList (left ++ gap ++ right)) object = .error error) ∧
      ∃ error,
        evaluate (String.ofList (left ++ gap ++ "NOT".toList ++ gap ++ right)) object =
          .error error := by
  have short : (Operator.standard : OperatorTable Id).longestKeyword ≤
      2 := by decide +kernel
  have ignores := Vocabulary.standard_ignoresExpression (m := Id)
  rcases Evaluator.exists_evaluate_negation ignores blank apart rightEvaluated with
    ⟨negatedValue, negatedEvaluated⟩
  refine ⟨Evaluator.exists_error_of_juxtaposed short leftEvaluated rightEvaluated blank
    apart, ?_⟩
  have regrouped : left ++ gap ++ "NOT".toList ++ gap ++ right =
      left ++ gap ++ ("NOT".toList ++ gap ++ right) := by
    simp only [List.append_assoc]
  rw [regrouped]
  exact Evaluator.exists_error_of_juxtaposed short leftEvaluated negatedEvaluated
    blank apart

theorem evaluate_juxtaposed_of_words :
    evaluate (String.ofList "NOT LEN(a) = 0 or b != x  y".toList) .null = .ok false ∧
      evaluate (String.ofList "c is not true AND (d IN \")\")".toList) .null = .ok false ∧
      (∃ error, evaluate
        (String.ofList ("NOT LEN(a) = 0 or b != x  y".toList ++ "\t ".toList ++
        "c is not true AND (d IN \")\")".toList)) .null = .error error) ∧
      ∃ error, evaluate
        (String.ofList ("NOT LEN(a) = 0 or b != x  y".toList ++ "\t ".toList ++
        "NOT".toList ++ "\t ".toList ++ "c is not true AND (d IN \")\")".toList)) .null =
          .error error := by
  have left : evaluate (String.ofList "NOT LEN(a) = 0 or b != x  y".toList) .null =
      .ok false := by
    decide +kernel
  have right : evaluate (String.ofList "c is not true AND (d IN \")\")".toList) .null =
      .ok false := by
    decide +kernel
  have blank : Text.allBlank "\t ".toList = true := by decide
  have apart : "\t ".toList ≠ [] := by decide
  exact ⟨left, right, evaluate_juxtaposed left right blank apart⟩

end Criteria
