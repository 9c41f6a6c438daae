import Criteria.Proofs.Evaluator
import Criteria.Proofs.Expr.Standalone

/-!
The value of an expression from the values of its leaves.

Each leaf is an expression by itself, and it has the same value there, for conditions of
the standard vocabulary do not see where they stand. So nothing but the values of the
leaves, taken one by one, goes into the value of the whole.
-/

namespace Criteria

theorem Expr.exists_formula? {text : List Char} {expr : Expr}
    (covered : ∀ span ∈ expr.leaves, ∃ condition, span.Covers text condition) :
    ∃ formula, expr.formula? text = some formula := by
  induction expr with
  | leaf span =>
      rcases covered span (List.mem_singleton_self _) with ⟨condition, covers⟩
      exact ⟨.leaf condition, by rw [formula?, covers.slice?_eq, Option.map_some]⟩
  | not inner induction =>
      rcases induction covered with ⟨formula, equal⟩
      exact ⟨.not formula, by rw [formula?, equal, Option.map_some]⟩
  | connect connective left right leftInduction rightInduction =>
      rw [leaves, List.forall_mem_append] at covered
      rcases leftInduction covered.1 with ⟨leftFormula, leftEqual⟩
      rcases rightInduction covered.2 with ⟨rightFormula, rightEqual⟩
      refine ⟨.connect connective leftFormula rightFormula, ?_⟩
      rw [formula?, leftEqual, rightEqual]
      rfl

theorem Expr.read_of_mem_leafTexts {source condition : List Char} {expr : Expr}
    (result : read source = .ok expr) (member : condition ∈ expr.leafTexts source) :
    read condition = .ok (.leaf ⟨0, Text.byteSize condition⟩) := by
  rcases List.mem_filterMap.mp member with ⟨span, inLeaves, slice⟩
  rcases leaves_alone result span inLeaves with ⟨text, covers, isLeaf⟩
  cases covers.slice?_eq.symm.trans slice
  exact isLeaf

/-- The leaves of an expression are expressions themselves, and the value of the whole
is what its tree makes of the values that they have alone. If they do not all have one,
it is the error of the first that has none. -/
theorem evaluate_leaves {source : List Char} {expr : Expr}
    (result : Expr.read source = .ok expr) :
    (∀ condition ∈ expr.leafTexts source,
      Expr.read condition = .ok (.leaf ⟨0, Text.byteSize condition⟩)) ∧
    ∃ formula, expr.formula? source = some formula ∧
      ∀ object,
        (∀ truth : List Char → Bool,
          (∀ condition ∈ expr.leafTexts source,
            evaluate (String.ofList condition) object = .ok (truth condition)) →
          evaluate (String.ofList source) object = .ok (formula.holds truth)) ∧
        ∀ earlier condition later error,
          expr.leafTexts source = earlier ++ condition :: later →
          (∀ other ∈ earlier, ∃ value,
            evaluate (String.ofList other) object = .ok value) →
          evaluate (String.ofList condition) object = .error error →
          evaluate (String.ofList source) object = .error error := by
  have alone : ∀ condition ∈ expr.leafTexts source,
      Expr.read condition = .ok (.leaf ⟨0, Text.byteSize condition⟩) :=
    fun _ member => Expr.read_of_mem_leafTexts result member
  have covered : ∀ span ∈ expr.leaves, ∃ condition, span.Covers source condition := by
    intro span member
    rcases Expr.leaves_alone result span member with ⟨condition, covers, _⟩
    exact ⟨condition, covers⟩
  rcases Expr.exists_formula? covered with ⟨formula, isFormula⟩
  refine ⟨alone, formula, isFormula, ?_⟩
  rw [Expr.leafTexts_of_formula? isFormula] at alone ⊢
  exact evaluate_leaves_of_formula? result isFormula alone

/-- Keywords inside a leaf, a call with a blank before its parenthesis, and a group in
an argument. The last leaf fails, alone and in the expression. Where the last leaf has a
value, it decides both connectives. -/
theorem evaluate_leaves_of_call :
    Expr.read "x is NOT null AND(LEN (a) = 0 OR f (not(b) or c) in \"OR\")".toList =
        .ok (.connect .and (.leaf ⟨0, 13⟩)
          (.connect .or (.leaf ⟨18, 29⟩) (.leaf ⟨33, 56⟩))) ∧
      Expr.read "f (not(b) or c) in \"OR\"".toList = .ok (.leaf ⟨0, 23⟩) ∧
      evaluate "x is NOT null AND(LEN (a) = 0 OR f (not(b) or c) in \"OR\")" .null =
        .error (.unknownFunction "f") ∧
      evaluate "x is null AND(LEN (a) > 0 OR c = \"OR\")" .null = .ok false ∧
      evaluate "x is null AND(LEN (a) > 0 OR c = \"OR\")" (.map [("c", .string "OR")]) =
        .ok true := by
  have result :
      Expr.read "x is NOT null AND(LEN (a) = 0 OR f (not(b) or c) in \"OR\")".toList =
      .ok (.connect .and (.leaf ⟨0, 13⟩)
        (.connect .or (.leaf ⟨18, 29⟩) (.leaf ⟨33, 56⟩))) := by
    decide +kernel
  have valued : Expr.read "x is null AND(LEN (a) > 0 OR c = \"OR\")".toList =
      .ok (.connect .and (.leaf ⟨0, 9⟩)
        (.connect .or (.leaf ⟨14, 25⟩) (.leaf ⟨29, 37⟩))) := by
    decide +kernel
  rcases evaluate_leaves result with ⟨alone, formula, _, evaluated⟩
  rcases evaluate_leaves valued with ⟨_, values, isFormula, outcome⟩
  have isWritten : values = .connect .and (.leaf "x is null".toList)
      (.connect .or (.leaf "LEN (a) > 0".toList) (.leaf "c = \"OR\"".toList)) :=
    Option.some.inj (isFormula.symm.trans (by decide +kernel))
  subst isWritten
  have ofNull := (outcome .null).1 (fun condition => condition == "x is null".toList)
    (by decide +kernel)
  have ofText := (outcome (.map [("c", .string "OR")])).1
    (fun condition => condition != "LEN (a) > 0".toList) (by decide +kernel)
  have passes : ∀ other ∈ ["x is NOT null".toList, "LEN (a) = 0".toList],
      ∃ value, evaluate (String.ofList other) .null = .ok value := by
    simp only [List.forall_mem_cons]
    exact ⟨⟨false, by decide +kernel⟩, ⟨true, by decide +kernel⟩, by simp⟩
  have fails : evaluate (String.ofList "f (not(b) or c) in \"OR\"".toList) .null =
      .error (.unknownFunction "f") := by
    decide +kernel
  exact ⟨result, alone _ (by decide +kernel),
    (evaluated .null).2 _ _ [] _ (by decide +kernel) passes fails, ofNull, ofText⟩

end Criteria
