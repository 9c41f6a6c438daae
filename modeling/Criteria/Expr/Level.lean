import Criteria.Error
import Criteria.Expr.Basic
import Criteria.Term.Split

/-!
One level of an expression: the terms between a pair of parentheses, or of the whole
text.

The connectives of a level cut it into segments. A segment is an operand: `NOT` any
number of times, and then either one group or a condition, which is every term from
there to the end of the segment. A level is the fold of its operands from the left; no
connective binds tighter than the other.
-/

namespace Criteria.Level

/-! ## Segments -/

/-- The terms before the first connective, and each connective with the terms after it. -/
def segments : List Term → List Term × List (Connective × List Term)
  | [] => ([], [])
  | term :: rest =>
      let (first, others) := segments rest
      match term.kind with
      | .connective connective => ([], (connective, first) :: others)
      | _ => (term :: first, others)

theorem mem_of_mem_segments {terms : List Term} {term : Term} :
    (term ∈ (segments terms).1 → term ∈ terms) ∧
      ∀ segment ∈ (segments terms).2, term ∈ segment.2 → term ∈ terms := by
  induction terms with
  | nil => simp [segments]
  | cons head rest induction =>
      simp only [segments]
      split
      · refine ⟨by simp, fun segment member inSegment => ?_⟩
        rcases List.mem_cons.mp member with rfl | member
        · exact List.mem_cons_of_mem _ (induction.1 inSegment)
        · exact List.mem_cons_of_mem _ (induction.2 segment member inSegment)
      · refine ⟨fun member => ?_, fun segment member inSegment => ?_⟩
        · rcases List.mem_cons.mp member with rfl | member
          · exact List.mem_cons_self
          · exact List.mem_cons_of_mem _ (induction.1 member)
        · exact List.mem_cons_of_mem _ (induction.2 segment member inSegment)

/-! ## Reading -/

abbrev Enter (terms : List Term) : Type :=
  (group : Term) → group ∈ terms → Except EvaluationError Expr

def readOperand (level : String) : (segment : List Term) → Enter segment →
    Except EvaluationError Expr
  | [], _ => .error (.incomplete level)
  | term :: rest, enter =>
      match term.kind with
      | .negation =>
          (readOperand level rest fun group member =>
            enter group (List.mem_cons_of_mem _ member)).map .not
      | .group =>
          if Text.allBlank term.inner then .error (.empty level)
          else do
            let inner ← enter term List.mem_cons_self
            if rest.isEmpty then return inner else throw (.incomplete level)
      | _ => .ok (.leaf ⟨term.start, (rest.getLastD term).stop⟩)

def read (level : String) (terms : List Term) (enter : Enter terms) :
    Except EvaluationError Expr :=
  if terms.isEmpty then .error (.empty level)
  else do
    let first ← readOperand level (segments terms).1 fun group member =>
      enter group (mem_of_mem_segments.1 member)
    (segments terms).2.attach.foldlM
      (fun left segment => do
        let right ← readOperand level segment.1.2 fun group member =>
          enter group (mem_of_mem_segments.2 segment.1 segment.2 member)
        return .connect segment.1.1 left right)
      first

end Criteria.Level
