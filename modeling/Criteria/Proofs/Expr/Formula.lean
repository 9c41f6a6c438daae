import Criteria.Evaluator

/-!
Boolean formulas over the texts of conditions.

A formula is what a tree says of its text, without the offsets. All leaves of a formula
are judged, from left to right, so its value is an error if the judge has an error for
any leaf, and it is the error of the first such leaf.
-/

namespace Criteria

inductive Formula where
  | leaf (condition : List Char)
  | not (inner : Formula)
  | connect (connective : Connective) (left right : Formula)
  deriving DecidableEq

namespace Formula

def leaves : Formula → List (List Char)
  | .leaf condition => [condition]
  | .not inner => inner.leaves
  | .connect _ left right => left.leaves ++ right.leaves

def holds (truth : List Char → Bool) : Formula → Bool
  | .leaf condition => truth condition
  | .not inner => !inner.holds truth
  | .connect .and left right => left.holds truth && right.holds truth
  | .connect .or left right => left.holds truth || right.holds truth

def evaluate {m : Type → Type} [Monad m] (judge : List Char → m Bool) : Formula → m Bool
  | .leaf condition => judge condition
  | .not inner => return !(← inner.evaluate judge)
  | .connect connective left right => do
      let left ← left.evaluate judge
      let right ← right.evaluate judge
      return connective.apply left right

/-! ## The two outcomes of an evaluation -/

variable {m : Type → Type} [Monad m] [LawfulMonad m]

theorem evaluate_eq_pure {judge : List Char → m Bool} {truth : List Char → Bool}
    (formula : Formula) (judged : ∀ condition ∈ formula.leaves,
      judge condition = pure (truth condition)) :
    formula.evaluate judge = pure (formula.holds truth) := by
  induction formula with
  | leaf condition => exact judged condition (List.mem_singleton_self _)
  | not inner induction =>
      rw [evaluate, induction judged, pure_bind]
      rfl
  | connect connective left right leftInduction rightInduction =>
      rw [leaves, List.forall_mem_append] at judged
      rw [evaluate, leftInduction judged.1, rightInduction judged.2, pure_bind, pure_bind]
      cases connective with
      | and => rfl
      | or => rfl

theorem exists_evaluate_eq_pure {judge : List Char → m Bool} (formula : Formula)
    (passes : ∀ condition ∈ formula.leaves, ∃ value, judge condition = pure value) :
    ∃ value, formula.evaluate judge = pure value := by
  have valued : ∀ condition, ∃ value, condition ∈ formula.leaves →
      judge condition = pure value := by
    intro condition
    by_cases member : condition ∈ formula.leaves
    · rcases passes condition member with ⟨value, equal⟩
      exact ⟨value, fun _ => equal⟩
    · exact ⟨false, fun isLeaf => absurd isLeaf member⟩
  rcases Classical.skolem.mp valued with ⟨truth, judged⟩
  exact ⟨formula.holds truth, formula.evaluate_eq_pure judged⟩

variable {ε : Type}

theorem evaluate_eq_throw {judge : List Char → ExceptT ε m Bool} {formula : Formula}
    {before after : List (List Char)} {condition : List Char} {error : ε}
    (equal : formula.leaves = before ++ condition :: after)
    (passes : ∀ earlier ∈ before, ∃ value, judge earlier = pure value)
    (fails : judge condition = throw error) : formula.evaluate judge = throw error := by
  induction formula generalizing before after with
  | leaf only =>
      cases before with
      | nil =>
          cases equal
          exact fails
      | cons first others => simp [leaves] at equal
  | not inner induction =>
      rw [evaluate, induction equal passes, ExceptT.bind_throw]
  | connect connective left right leftInduction rightInduction =>
      rcases List.append_eq_append_iff.mp equal with ⟨between, rfl, rightEq⟩ |
        ⟨between, leftEq, restEq⟩
      · -- The condition is on the right. The left side has a value, which then does not
        -- count.
        rw [List.forall_mem_append] at passes
        rcases left.exists_evaluate_eq_pure passes.1 with ⟨value, leftEqual⟩
        rw [evaluate, leftEqual, pure_bind, rightInduction rightEq passes.2,
          ExceptT.bind_throw]
      · cases between with
        | nil =>
            rw [List.append_nil] at leftEq
            rw [← leftEq] at passes
            rcases left.exists_evaluate_eq_pure passes with ⟨value, leftEqual⟩
            have rightEq : right.leaves = [] ++ condition :: after := restEq.symm
            rw [evaluate, leftEqual, pure_bind, rightInduction rightEq (by simp),
              ExceptT.bind_throw]
        | cons first others =>
            cases restEq
            rw [evaluate, leftInduction leftEq passes, ExceptT.bind_throw]

end Formula

namespace Expr

def formula? (text : List Char) : Expr → Option Formula
  | .leaf span => (span.slice? text).map .leaf
  | .not inner => (inner.formula? text).map .not
  | .connect connective left right => do
      let left ← left.formula? text
      let right ← right.formula? text
      return .connect connective left right

theorem leafTexts_of_formula? {text : List Char} {expr : Expr} {formula : Formula}
    (equal : expr.formula? text = some formula) :
    expr.leafTexts text = formula.leaves := by
  induction expr generalizing formula with
  | leaf span =>
      rw [formula?, Option.map_eq_some_iff] at equal
      rcases equal with ⟨condition, slice, rfl⟩
      rw [leafTexts, leaves, List.filterMap_cons, slice]
      rfl
  | not inner induction =>
      rw [formula?, Option.map_eq_some_iff] at equal
      rcases equal with ⟨formula, innerEqual, rfl⟩
      rw [Formula.leaves, ← induction innerEqual]
      rfl
  | connect connective left right leftInduction rightInduction =>
      simp only [formula?, Option.bind_eq_bind, Option.bind_eq_some_iff, Option.pure_def,
        Option.some.injEq] at equal
      rcases equal with ⟨leftFormula, leftEqual, rightFormula, rightEqual, rfl⟩
      rw [Formula.leaves, ← leftInduction leftEqual, ← rightInduction rightEqual]
      exact List.filterMap_append

/-- A tree whose leaves are judged by their texts has the value of its formula. -/
theorem evaluate_of_formula? {m : Type → Type} [Monad m] {judgeSpan : Span → m Bool}
    {judge : List Char → m Bool} {text : List Char} {expr : Expr} {formula : Formula}
    (equal : expr.formula? text = some formula)
    (agree : ∀ span, ∀ condition ∈ formula.leaves, span.slice? text = some condition →
      judgeSpan span = judge condition) :
    expr.evaluate judgeSpan = formula.evaluate judge := by
  induction expr generalizing formula with
  | leaf span =>
      rw [formula?, Option.map_eq_some_iff] at equal
      rcases equal with ⟨condition, slice, rfl⟩
      exact agree span condition (List.mem_singleton_self _) slice
  | not inner induction =>
      rw [formula?, Option.map_eq_some_iff] at equal
      rcases equal with ⟨formula, innerEqual, rfl⟩
      rw [evaluate, Formula.evaluate, induction innerEqual agree]
  | connect connective left right leftInduction rightInduction =>
      simp only [formula?, Option.bind_eq_bind, Option.bind_eq_some_iff, Option.pure_def,
        Option.some.injEq] at equal
      rcases equal with ⟨leftFormula, leftEqual, rightFormula, rightEqual, rfl⟩
      rw [evaluate, Formula.evaluate,
        leftInduction leftEqual fun span condition member =>
          agree span condition (List.mem_append_left _ member),
        rightInduction rightEqual fun span condition member =>
          agree span condition (List.mem_append_right _ member)]

end Expr

end Criteria
