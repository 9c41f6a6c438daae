import Criteria.Proofs.Evaluator
import Criteria.Proofs.Expr.Composition
import Criteria.Proofs.Expr.Leaves

/-!
What an expression evaluates to that is put together from others.

A condition does not see where it stands, so a part of an expression has the value that
it has alone. In parentheses, after `NOT`, and on both sides of a connective, the values
of the parts make up the value of the whole, and so do their errors. An error that
reading finds comes before all others.
-/

namespace Criteria

open Nesting (parenthesize)
open Level (Reads)

theorem Expr.evaluate_shift {m : Type → Type} [Monad m] (judge : Span → m Bool)
    (bytes : Nat) (expr : Expr) :
    (expr.shift bytes).evaluate judge = expr.evaluate fun span =>
      judge (span.shift bytes) := by
  induction expr with
  | leaf span => rfl
  | not inner induction => rw [shift, evaluate, evaluate, induction]
  | connect connective left right leftInduction rightInduction =>
      rw [shift, evaluate, evaluate, leftInduction, rightInduction]

theorem Span.Covers.shift {span : Span} {text part : List Char}
    (covers : span.Covers text part) (before after : List Char) :
    (span.shift (Text.byteSize before)).Covers (before ++ text ++ after) part := by
  rcases covers with ⟨left, right, rfl, start, stop⟩
  refine ⟨before ++ left, right ++ after, by simp, ?_, ?_⟩
  · rw [Span.shift, Text.byteSize_append, start]
  · rw [Span.shift, Text.byteSize_append, stop, Nat.add_assoc]

namespace Evaluator

variable {m : Type → Type} [Monad m] {vocabulary : Vocabulary m}

theorem evaluate_of_read_error {text : List Char} {error : EvaluationError}
    (result : Expr.read text = .error error) (object : Value) :
    (ofVocabulary vocabulary).evaluate (String.ofList text) object = throw error := by
  have read : (ofVocabulary vocabulary).read (String.ofList text) = .error error := by
    change Expr.read (String.ofList text).toList = .error error
    rw [String.toList_ofList, result]
  rw [evaluate, read]

/-- In a larger text a tree has the value that it has alone. -/
theorem evaluate_part {source before text after : List Char} {expr : Expr}
    (ignores : vocabulary.IgnoresExpression) (result : Expr.read text = .ok expr)
    (equal : source = before ++ text ++ after) (object : Value) :
    (expr.shift (Text.byteSize before)).evaluate
        ((ofVocabulary vocabulary).evaluateLeaf ⟨String.ofList source, object⟩ source) =
      (ofVocabulary vocabulary).evaluate (String.ofList text) object := by
  rw [evaluate_of_read result, Expr.evaluate_shift]
  apply Expr.evaluate_congr
  intro span member
  rcases Expr.read_eq_ok_iff.mp result with ⟨terms, tiled, reads⟩
  rcases reads.covers tiled.laid span member with ⟨condition, covers, _⟩
  rw [evaluateLeaf, evaluateLeaf, covers.slice?_eq, equal,
    (covers.shift before after).slice?_eq]
  exact Condition.evaluate_ignoresExpression ignores ⟨String.ofList text, object⟩
    (String.ofList (before ++ text ++ after)) (String.ofList condition)

theorem evaluate_parenthesize {text : List Char} (ignores : vocabulary.IgnoresExpression)
    (isLevel : Expr.IsLevel text) (object : Value) :
    (ofVocabulary vocabulary).evaluate (String.ofList (parenthesize text)) object =
      (ofVocabulary vocabulary).evaluate (String.ofList text) object := by
  have result := Expr.read_parenthesize isLevel
  cases read : Expr.read text with
  | error error =>
      rw [read] at result
      rw [evaluate_of_read_error result, evaluate_of_read_error read]
  | ok expr =>
      rw [read] at result
      rw [evaluate_of_read result]
      have regrouped : parenthesize text = ['('] ++ text ++ [')'] := rfl
      exact evaluate_part ignores read regrouped object

theorem evaluate_negation_parenthesize [LawfulMonad m] {text : List Char}
    (ignores : vocabulary.IgnoresExpression) (isLevel : Expr.IsLevel text)
    (object : Value) :
    (ofVocabulary vocabulary).evaluate
      (String.ofList ("NOT ".toList ++ parenthesize text)) object =
      do return !(← (ofVocabulary vocabulary).evaluate (String.ofList text) object) := by
  have result := Expr.read_negation_parenthesize isLevel
  cases read : Expr.read text with
  | error error =>
      rw [read] at result
      rw [evaluate_of_read_error result, evaluate_of_read_error read, ExceptT.bind_throw]
  | ok expr =>
      rw [read] at result
      have regrouped : "NOT ".toList ++ parenthesize text = "NOT (".toList ++ text ++
          [')'] := rfl
      rw [evaluate_of_read result, Expr.evaluate]
      have value := evaluate_part ignores read regrouped object
      exact congrArg (· >>= fun value => pure !value) value

theorem evaluate_connect
    {source left right beforeLeft afterLeft beforeRight afterRight : List Char}
    {leftExpr rightExpr : Expr} {connective : Connective}
    (ignores : vocabulary.IgnoresExpression) (leftRead : Expr.read left = .ok leftExpr)
    (rightRead : Expr.read right = .ok rightExpr)
    (leftEqual : source = beforeLeft ++ left ++ afterLeft)
    (rightEqual : source = beforeRight ++ right ++ afterRight)
    (result : Expr.read source =
      .ok (.connect connective (leftExpr.shift (Text.byteSize beforeLeft))
        (rightExpr.shift (Text.byteSize beforeRight))))
    (object : Value) :
    (ofVocabulary vocabulary).evaluate (String.ofList source) object = do
      let leftValue ← (ofVocabulary vocabulary).evaluate (String.ofList left) object
      let rightValue ← (ofVocabulary vocabulary).evaluate (String.ofList right) object
      return connective.apply leftValue rightValue := by
  have leftValue := evaluate_part ignores leftRead leftEqual object
  have rightValue := evaluate_part ignores rightRead rightEqual object
  rw [← leftValue, ← rightValue, evaluate_of_read result, Expr.evaluate]

theorem evaluate_link_parenthesize {left right : List Char} {leftExpr rightExpr : Expr}
    (ignores : vocabulary.IgnoresExpression) (connective : Connective)
    (leftRead : Expr.read left = .ok leftExpr)
    (rightRead : Expr.read right = .ok rightExpr) (object : Value) :
    (ofVocabulary vocabulary).evaluate
        (String.ofList (parenthesize left ++ connective.link ++ parenthesize right))
        object = do
      let leftValue ← (ofVocabulary vocabulary).evaluate (String.ofList left) object
      let rightValue ← (ofVocabulary vocabulary).evaluate (String.ofList right) object
      return connective.apply leftValue rightValue := by
  have leftGrouped : parenthesize left ++ connective.link ++ parenthesize right =
      ['('] ++ left ++ ([')'] ++ connective.link ++ parenthesize right) := by
    simp [parenthesize]
  have rightGrouped : parenthesize left ++ connective.link ++ parenthesize right =
      (parenthesize left ++ connective.link ++ ['(']) ++ right ++ [')'] := by
    simp [parenthesize]
  have result := Expr.read_link_parenthesize connective (Expr.isLevel_of_read leftRead)
    (Expr.isLevel_of_read rightRead)
  rw [leftRead, rightRead] at result
  apply evaluate_connect ignores leftRead rightRead leftGrouped rightGrouped
  rw [Text.byteSize_append _ ['(']]
  exact result

theorem evaluate_link {left right : List Char} {leftExpr rightExpr : Expr}
    {terms : List Term} (ignores : vocabulary.IgnoresExpression) (connective : Connective)
    (leftRead : Expr.read left = .ok leftExpr) (rightTiled : Term.Tiled 0 right terms)
    (rightReads : Reads .operand terms rightExpr) (object : Value) :
    (ofVocabulary vocabulary).evaluate
        (String.ofList (parenthesize left ++ connective.link ++ right)) object =
      (ofVocabulary vocabulary).evaluate
        (String.ofList (left ++ connective.link ++ right)) object := by
  have rightRead : Expr.read right = .ok rightExpr :=
    Expr.read_eq_ok_iff.mpr ⟨terms, rightTiled, .single rightReads⟩
  have bare := Expr.read_link connective leftRead rightTiled rightReads
  rw [← Expr.shift_zero leftExpr] at bare
  have group := Expr.read_parenthesize (Expr.isLevel_of_read leftRead)
  rw [leftRead] at group
  have enclosed := Expr.read_link connective group rightTiled rightReads
  have enclosedGrouped : parenthesize left ++ connective.link ++ right =
      ['('] ++ left ++ ([')'] ++ connective.link ++ right) := by
    simp [parenthesize]
  have bareGrouped :
      left ++ connective.link ++ right = [] ++ left ++ (connective.link ++ right) :=
    List.append_assoc ..
  have value :=
    evaluate_connect ignores leftRead rightRead bareGrouped (List.append_nil _).symm bare
    object
  exact (evaluate_connect ignores leftRead rightRead enclosedGrouped
    (List.append_nil _).symm enclosed object).trans value.symm

end Evaluator

theorem bind_eq_bind {ε α β : Type} (first : Except ε α) (next : α → Except ε β) :
    bind (m := ExceptT ε Id) first next = bind (m := Except ε) first next := by
  cases first <;> rfl

/-- Parentheses change nothing, and `NOT` negates. The first error that reading has in
one of two operands comes first, then the first error that evaluating has. A left
operand needs no parentheses: without them the tree is the same but for its offsets. -/
theorem evaluate_composed (object : Value) :
    (∀ text, Expr.IsLevel text →
      evaluate (String.ofList (parenthesize text)) object =
        evaluate (String.ofList text) object ∧
      evaluate (String.ofList ("NOT ".toList ++ parenthesize text)) object =
        (evaluate (String.ofList text) object).map (! ·)) ∧
    (∀ (connective : Connective) left right, Expr.IsLevel left → Expr.IsLevel right →
      evaluate (String.ofList
        (parenthesize left ++ connective.link ++ parenthesize right)) object = do
          let _ ← Expr.read left
          let _ ← Expr.read right
          let leftValue ← evaluate (String.ofList left) object
          let rightValue ← evaluate (String.ofList right) object
          return match connective with
            | .and => leftValue && rightValue
            | .or => leftValue || rightValue) ∧
    ∀ (connective : Connective) left right leftExpr rightExpr terms,
      Expr.read left = .ok leftExpr →
      Term.split 0 right = .ok terms → Reads .operand terms rightExpr →
      Expr.read (left ++ connective.link ++ right) =
        .ok (.connect connective leftExpr
          (rightExpr.shift (Text.byteSize (left ++ connective.link)))) ∧
      Expr.read (parenthesize left ++ connective.link ++ right) =
        .ok (.connect connective (leftExpr.shift 1)
          (rightExpr.shift (Text.byteSize (parenthesize left ++ connective.link)))) ∧
      evaluate (String.ofList (parenthesize left ++ connective.link ++ right)) object =
        evaluate (String.ofList (left ++ connective.link ++ right)) object := by
  have ignores := Vocabulary.standard_ignoresExpression (m := Id)
  refine ⟨?_, ?_, ?_⟩
  · intro text isLevel
    have negation := Evaluator.evaluate_negation_parenthesize ignores isLevel object
    rw [bind_eq_bind] at negation
    exact ⟨Evaluator.evaluate_parenthesize ignores isLevel object, negation⟩
  · intro connective left right leftIsLevel rightIsLevel
    have result := Expr.read_link_parenthesize connective leftIsLevel rightIsLevel
    cases leftRead : Expr.read left with
    | error error =>
        rw [leftRead] at result
        exact Evaluator.evaluate_of_read_error result object
    | ok leftExpr =>
        cases rightRead : Expr.read right with
        | error error =>
            rw [leftRead, rightRead] at result
            exact Evaluator.evaluate_of_read_error result object
        | ok rightExpr =>
            have value :=
              Evaluator.evaluate_link_parenthesize ignores connective leftRead
                rightRead object
            simp only [bind_eq_bind] at value
            cases connective with
            | and => exact value
            | or => exact value
  · intro connective left right leftExpr rightExpr terms leftRead splits rightReads
    have rightTiled := Term.split_eq_ok_iff.mp splits
    have group := Expr.read_parenthesize (Expr.isLevel_of_read leftRead)
    rw [leftRead] at group
    exact ⟨Expr.read_link connective leftRead rightTiled rightReads,
      Expr.read_link connective group rightTiled rightReads,
      Evaluator.evaluate_link ignores connective leftRead rightTiled rightReads object⟩

/-- The right operand decides, once against an `AND` and once for an `OR`. Parentheses
keep a fault of reading. On the left of a connective a malformed condition comes after
such a fault on the right, and with a right operand that can be read it comes before an
unknown function there. -/
theorem evaluate_composed_of_faults :
    Expr.IsLevel "a".toList ∧ Expr.IsLevel "b = 2 AND".toList ∧
      evaluate (String.ofList (parenthesize "a IS NULL".toList ++ Connective.and.link ++
        parenthesize "b = 2".toList)) .null = .ok false ∧
      evaluate (String.ofList (parenthesize "b = 2".toList ++ Connective.or.link ++
        parenthesize "a IS NULL".toList)) .null = .ok true ∧
      evaluate (String.ofList (parenthesize "b = 2 AND".toList)) .null =
        .error (.incomplete "b = 2 AND") ∧
      evaluate (String.ofList (parenthesize "a".toList ++ Connective.or.link ++
        parenthesize "b = 2 AND".toList)) .null = .error (.incomplete "b = 2 AND") ∧
      evaluate (String.ofList (parenthesize "a".toList ++ Connective.or.link ++
        "NOT (f() = 1)".toList)) .null = .error (.malformedCondition "a") := by
  have left : Expr.IsLevel "a".toList := ⟨⟨[⟨.word, 0, "a".toList⟩], rfl⟩, by decide⟩
  have right : Expr.IsLevel "b = 2 AND".toList :=
    ⟨⟨[⟨.word, 0, "b".toList⟩, ⟨.word, 2, "=".toList⟩, ⟨.word, 4, "2".toList⟩,
      ⟨.connective .and, 6, "AND".toList⟩], rfl⟩, by decide⟩
  have isNull : Expr.IsLevel "a IS NULL".toList :=
    ⟨⟨[⟨.word, 0, "a".toList⟩, ⟨.word, 2, "IS".toList⟩, ⟨.word, 5, "NULL".toList⟩], rfl⟩,
      by decide⟩
  have equals : Expr.IsLevel "b = 2".toList :=
    ⟨⟨[⟨.word, 0, "b".toList⟩, ⟨.word, 2, "=".toList⟩, ⟨.word, 4, "2".toList⟩], rfl⟩,
      by decide⟩
  have operand :
      Reads .operand [⟨.negation, 0, "NOT".toList⟩, ⟨.group, 4, "(f() = 1)".toList⟩]
      (.not (.leaf ⟨5, 12⟩)) := by
    have inside : Term.split 5 "f() = 1".toList = .ok [⟨.word, 5, "f()".toList⟩,
      ⟨.word, 9, "=".toList⟩, ⟨.word, 11, "1".toList⟩] := rfl
    exact .negation rfl (.group rfl (by decide) inside (.single (.run rfl (by simp))))
  have composed := evaluate_composed .null
  have bare :=
    (composed.2.2 .or "a".toList "NOT (f() = 1)".toList (.leaf ⟨0, 1⟩) _ _
      (by decide +kernel) rfl operand).2.2
  exact ⟨left, right, (composed.2.1 .and _ _ isNull equals).trans (by decide +kernel),
    (composed.2.1 .or _ _ equals isNull).trans (by decide +kernel),
    (composed.1 _ right).1.trans (by decide +kernel),
    (composed.2.1 .or _ _ left right).trans (by decide +kernel),
    bare.trans (by decide +kernel)⟩

end Criteria
