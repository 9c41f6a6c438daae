import Criteria.Term.Basic

/-!
Expression trees. A leaf is a condition, given by its span in the text of the expression.
-/

namespace Criteria

inductive Expr where
  | leaf (span : Span)
  | not (inner : Expr)
  | connect (connective : Connective) (left right : Expr)
  deriving DecidableEq, Repr

namespace Expr

def leaves : Expr → List Span
  | .leaf span => [span]
  | .not inner => inner.leaves
  | .connect _ left right => left.leaves ++ right.leaves

def leafCount : Expr → Nat
  | .leaf _ => 1
  | .not inner => inner.leafCount
  | .connect _ left right => left.leafCount + right.leafCount

theorem length_leaves (expr : Expr) : expr.leaves.length = expr.leafCount := by
  induction expr with
  | leaf span => rfl
  | not inner induction => exact induction
  | connect connective left right leftInduction rightInduction =>
      simp [leaves, leafCount, leftInduction, rightInduction]

def leafTexts (expr : Expr) (text : List Char) : List (List Char) :=
  expr.leaves.filterMap (·.slice? text)

end Expr

end Criteria
