import Criteria.Proofs.Condition.Context
import Criteria.Proofs.Expr.Written

/-!
What an expression evaluates to, in terms of what its conditions evaluate to by
themselves.
-/

namespace Criteria

open Level (Form)

namespace Evaluator

variable {m : Type → Type} [Monad m] {vocabulary : Vocabulary m}

theorem evaluate_of_read {text : List Char} {expr : Expr}
    (result : Expr.read text = .ok expr) (object : Value) :
    (ofVocabulary vocabulary).evaluate (String.ofList text) object =
      expr.evaluate
        ((ofVocabulary vocabulary).evaluateLeaf ⟨String.ofList text, object⟩ text) := by
  have read : (ofVocabulary vocabulary).read (String.ofList text) = .ok expr := by
    change Expr.read (String.ofList text).toList = .ok expr
    rw [String.toList_ofList, result]
  rw [evaluate, read, String.toList_ofList]

theorem evaluate_of_leaf {condition : List Char}
    (isLeaf : Expr.read condition = .ok (.leaf ⟨0, Text.byteSize condition⟩))
    (object : Value) :
    (ofVocabulary vocabulary).evaluate (String.ofList condition) object =
      Condition.evaluate vocabulary ⟨String.ofList condition, object⟩
        (String.ofList condition) := by
  have covers : Span.Covers ⟨0, Text.byteSize condition⟩ condition condition :=
    ⟨[], [], (List.append_nil _).symm, rfl, (Nat.zero_add _).symm⟩
  rw [evaluate_of_read isLeaf, Expr.evaluate, evaluateLeaf, covers.slice?_eq]
  rfl

theorem evaluate_of_formula? {text : List Char} {expr : Expr} {formula : Formula}
    (ignores : vocabulary.IgnoresExpression) (result : Expr.read text = .ok expr)
    (isFormula : expr.formula? text = some formula)
    (leaves : ∀ condition ∈ formula.leaves,
      Expr.read condition = .ok (.leaf ⟨0, Text.byteSize condition⟩)) (object : Value) :
    (ofVocabulary vocabulary).evaluate (String.ofList text) object =
      formula.evaluate fun condition =>
        (ofVocabulary vocabulary).evaluate (String.ofList condition) object := by
  rw [evaluate_of_read result]
  apply Expr.evaluate_of_formula? isFormula
  intro span condition member slice
  rw [evaluate_of_leaf (leaves condition member), evaluateLeaf, slice]
  exact Condition.evaluate_ignoresExpression ignores ⟨String.ofList condition, object⟩
    (String.ofList text) (String.ofList condition)

end Evaluator

theorem evaluate_leaves_of_formula? {source : List Char} {expr : Expr} {formula : Formula}
    (result : Expr.read source = .ok expr)
    (isFormula : expr.formula? source = some formula)
    (leaves : ∀ condition ∈ formula.leaves,
      Expr.read condition = .ok (.leaf ⟨0, Text.byteSize condition⟩)) (object : Value) :
    (∀ truth : List Char → Bool,
      (∀ condition ∈ formula.leaves,
        evaluate (String.ofList condition) object = .ok (truth condition)) →
      evaluate (String.ofList source) object = .ok (formula.holds truth)) ∧
    ∀ earlier condition later error, formula.leaves = earlier ++ condition :: later →
      (∀ other ∈ earlier, ∃ value, evaluate (String.ofList other) object = .ok value) →
      evaluate (String.ofList condition) object = .error error →
      evaluate (String.ofList source) object = .error error := by
  have value :=
    Evaluator.evaluate_of_formula? (m := Id) Vocabulary.standard_ignoresExpression
      result isFormula leaves object
  constructor
  · intro truth judged
    exact value.trans (formula.evaluate_eq_pure judged)
  · intro earlier condition later error split passes fails
    exact value.trans (Formula.evaluate_eq_throw split passes fails)

/-- Reading a written formula gives the formula back, and its evaluation is what the
formula makes of its conditions: its value if all of them have one, or else the error of
the first one that has none. -/
theorem evaluate_written {closed : Bool} {formula : Formula}
    {source before text after : List Char} (written : Written .chain closed formula text)
    (leaves : ∀ condition ∈ formula.leaves,
      Expr.read condition = .ok (.leaf ⟨0, Text.byteSize condition⟩))
    (blankBefore : Text.allBlank before = true) (blankAfter : Text.allBlank after = true)
    (equal : source = before ++ text ++ after) :
    ∃ expr, Expr.read source = .ok expr ∧ expr.formula? source = some formula ∧
      expr.leafTexts source = formula.leaves ∧
      ∀ object,
        (∀ truth : List Char → Bool,
          (∀ condition ∈ formula.leaves,
            evaluate (String.ofList condition) object = .ok (truth condition)) →
          evaluate (String.ofList source) object = .ok (formula.holds truth)) ∧
        ∀ earlier condition later error, formula.leaves = earlier ++ condition :: later →
          (∀ other ∈ earlier, ∃ value,
            evaluate (String.ofList other) object = .ok value) →
          evaluate (String.ofList condition) object = .error error →
          evaluate (String.ofList source) object = .error error := by
  rcases written.exists_read leaves blankBefore blankAfter with ⟨expr, result, isFormula⟩
  rw [← equal] at result isFormula
  exact ⟨expr, result, isFormula, Expr.leafTexts_of_formula? isFormula,
    evaluate_leaves_of_formula? result isFormula leaves⟩

/-- Parentheses in a condition and around it, in quotes and next to keywords. The last
leaf decides both connectives. -/
theorem evaluate_written_of_parentheses :
    ∃ expr, Expr.read " Not(LEN(a) > 1)aND ((b = \") OR (\"\tor c IS NULL) )".toList =
      .ok expr ∧
      expr.leafTexts " Not(LEN(a) > 1)aND ((b = \") OR (\"\tor c IS NULL) )".toList =
        ["LEN(a) > 1".toList, "b = \") OR (\"".toList, "c IS NULL".toList] ∧
      evaluate " Not(LEN(a) > 1)aND ((b = \") OR (\"\tor c IS NULL) )" .null = .ok true ∧
      evaluate " Not(LEN(a) > 1)aND ((b = \") OR (\"\tor c IS NULL) )"
        (.map [("c", .bool true)]) = .ok false := by
  have negation : Written .operand true (.not (.leaf "LEN(a) > 1".toList))
      ("Not".toList ++ [] ++ Nesting.parenthesize ([] ++ "LEN(a) > 1".toList ++ [])) :=
    .negation rfl rfl (.inr rfl) (.parenthesized rfl rfl (.single .leaf))
  have inner : Written .chain false
      (.connect .or (.leaf "b = \") OR (\"".toList) (.leaf "c IS NULL".toList))
      ("b = \") OR (\"".toList ++ "\t".toList ++ "or".toList ++ " ".toList ++
        "c IS NULL".toList) :=
    .connect (.single .leaf) (by decide) (.inl (by decide)) rfl (by decide)
      (.inl (by decide)) .leaf
  have group : Written .operand true
      (.connect .or (.leaf "b = \") OR (\"".toList) (.leaf "c IS NULL".toList))
      (Nesting.parenthesize ([] ++ Nesting.parenthesize ([] ++ ("b = \") OR (\"".toList ++
        "\t".toList ++ "or".toList ++ " ".toList ++ "c IS NULL".toList) ++ []) ++
          " ".toList)) :=
    .parenthesized rfl (by decide) (.single (.parenthesized rfl rfl inner))
  have spelled : Text.upper "aND".toList = Connective.spelling .and := rfl
  have blank : Text.allBlank " ".toList = true := by decide
  have written := Written.connect (.single negation) List.all_nil (.inr rfl) spelled blank
    (.inr rfl) group
  rcases evaluate_written written (by decide +kernel) blank List.all_nil rfl with
    ⟨expr, result, isFormula, leafTexts, evaluated⟩
  have isNull := (evaluated .null).1 (fun condition => condition == "c IS NULL".toList)
    (by decide +kernel)
  have noneHolds :=
    (evaluated (.map [("c", .bool true)])).1 (fun _ => false) (by decide +kernel)
  exact ⟨expr, result, leafTexts, isNull, noneHolds⟩

end Criteria
