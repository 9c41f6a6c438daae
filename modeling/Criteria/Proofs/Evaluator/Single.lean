import Criteria.Proofs.Evaluator
import Criteria.Proofs.Expr.Standalone
import Criteria.Proofs.Text.Hidden

/-!
Expressions that are a single condition, whatever the condition goes on with.

The words at the start of a condition and the rest of it, with a gap between them, have
the terms of both. So whether the whole is one condition is a question to the rest
alone: there must be no connective in it, and its quotes and parentheses must be closed.
As an expression, such a condition has the value that it has as a condition, and with
`NOT` in front the opposite one.
-/

namespace Criteria

open Term (Tiled)
open Level (Form)

/-! ## Texts with a gap between them -/

theorem Term.Tiled.append_gap {left gap right : List Char} {terms others : List Term}
    (tiled : Tiled 0 left terms) (blank : Text.allBlank gap = true) (apart : gap ≠ [])
    (tiledNext : Tiled 0 right others) :
    Tiled 0 (left ++ (gap ++ right))
      (terms ++ others.map (Term.shift (Text.byteSize left + Text.byteSize gap))) := by
  have shifted := tiledNext.shift (Text.byteSize left + Text.byteSize gap)
  refine tiled.append (fun next isHead => ?_) (Tiled.blanks blank ?_)
  · exact isBlank_of_head_gap blank apart next isHead
  · rw [Nat.zero_add]
    exact shifted

theorem Term.Tiled.exists_of_append_gap {left gap right : List Char}
    {terms all : List Term} (tiled : Tiled 0 left terms)
    (blank : Text.allBlank gap = true) (apart : gap ≠ [])
    (whole : Tiled 0 (left ++ (gap ++ right)) all) :
    ∃ others, Tiled 0 right others ∧
      all = terms ++
        others.map (Term.shift (Text.byteSize left + Text.byteSize gap)) := by
  have gapBalanced : Nesting.Balanced gap := (tiled_of_allBlank blank 0).balanced
  have balanced : Nesting.Balanced right := by
    rw [← Nesting.balanced_append_iff gapBalanced,
      ← Nesting.balanced_append_iff tiled.balanced]
    exact whole.balanced
  rcases exists_tiled_of_balanced balanced 0 with ⟨others, tiledNext⟩
  have joined := split_eq_ok_iff.mpr (tiled.append_gap blank apart tiledNext)
  rw [split_eq_ok_iff.mpr whole] at joined
  exact ⟨others, tiledNext, Except.ok.inj joined⟩

def Unconnected (text : List Char) : Prop :=
  ∃ terms, Tiled 0 text terms ∧
    ∀ term ∈ terms, ∀ connective, term.kind ≠ .connective connective

/-- A text without connectives whose first term is a word. -/
def Lone (text : List Char) : Prop :=
  ∃ first others, Tiled 0 text (first :: others) ∧ first.kind = .word ∧
    ∀ term ∈ others, ∀ connective, term.kind ≠ .connective connective

variable {left gap right text : List Char}

theorem Lone.unconnected (lone : Lone text) : Unconnected text := by
  rcases lone with ⟨first, others, tiled, isWord, joined⟩
  refine ⟨_, tiled, List.forall_mem_cons.mpr ⟨fun connective => ?_, joined⟩⟩
  rw [isWord]
  exact nofun

theorem unconnected_of_word (isWord : Term.IsWord text)
    (noConnective : ∀ connective, Term.keyword? text ≠ some (.connective connective)) :
    Unconnected text := by
  have tiled : Tiled 0 (text ++ []) [⟨Term.wordKind text, 0, text⟩] :=
    .word isWord nofun .nil
  rw [List.append_nil] at tiled
  refine ⟨_, tiled, fun term member connective isConnective => noConnective connective ?_⟩
  rw [List.mem_singleton.mp member, Term.wordKind] at isConnective
  cases keyword : Term.keyword? text with
  | none =>
      rw [keyword] at isConnective
      cases isConnective
  | some kind =>
      rw [keyword] at isConnective
      exact congrArg some isConnective

theorem lone_of_word (isWord : Term.IsWord text) (noKeyword : Term.keyword? text = none) :
    Lone text := by
  have tiled : Tiled 0 (text ++ []) [⟨Term.wordKind text, 0, text⟩] :=
    .word isWord nofun .nil
  rw [List.append_nil] at tiled
  exact ⟨_, [], tiled, by rw [Term.wordKind, noKeyword]; rfl, nofun⟩

theorem Unconnected.append_iff (unconnected : Unconnected left)
    (blank : Text.allBlank gap = true) (apart : gap ≠ []) :
    Unconnected (left ++ (gap ++ right)) ↔ Unconnected right := by
  rcases unconnected with ⟨terms, tiled, joined⟩
  constructor
  · rintro ⟨all, whole, allJoined⟩
    rcases tiled.exists_of_append_gap blank apart whole with ⟨others, tiledNext, rfl⟩
    exact ⟨others, tiledNext, fun term member => allJoined (term.shift _)
      (List.mem_append_right _ (List.mem_map_of_mem member))⟩
  · rintro ⟨others, tiledNext, othersJoined⟩
    refine ⟨_, tiled.append_gap blank apart tiledNext, ?_⟩
    rw [List.forall_mem_append, List.forall_mem_map]
    exact ⟨joined, othersJoined⟩

theorem Lone.append (lone : Lone left) (blank : Text.allBlank gap = true)
    (apart : gap ≠ []) (unconnected : Unconnected right) :
    Lone (left ++ (gap ++ right)) := by
  rcases lone with ⟨first, front, tiled, isWord, joined⟩
  rcases unconnected with ⟨others, tiledNext, othersJoined⟩
  have whole := tiled.append_gap blank apart tiledNext
  rw [List.cons_append] at whole
  refine ⟨first, _, whole, isWord, ?_⟩
  rw [List.forall_mem_append, List.forall_mem_map]
  exact ⟨joined, othersJoined⟩

/-! ## Single conditions -/

theorem Lone.exists_condition (lone : Lone text) :
    ∃ before condition after, text = before ++ condition ++ after ∧
      Text.allBlank before = true ∧ Text.allBlank after = true ∧
      Expr.read condition = .ok (.leaf ⟨0, Text.byteSize condition⟩) := by
  rcases lone with ⟨first, others, tiled, isWord, joined⟩
  rcases tiled.exists_head with ⟨before, rest, rfl, blank, size, _, fromFirst, _⟩
  rcases fromFirst.exists_run with
    ⟨none, condition, after, equal, _, noSize, ended, runTiled⟩
  have isLast : (first :: others).getLast? = some (others.getLastD first) := by
    rw [List.getLast?_cons, List.getLastD_eq_getLast?]
  have nothing : none = [] := Text.eq_nil_of_byteSize (by omega)
  subst nothing
  exact ⟨before, condition, after, by rw [equal, List.nil_append, List.append_assoc],
    blank, fromFirst.allBlank_after isLast equal ended,
    Level.read_run isWord joined runTiled ended⟩

theorem Lone.exists_span (lone : Lone text) :
    ∃ span, Expr.read text = .ok (.leaf span) := by
  rcases lone with ⟨first, others, tiled, isWord, joined⟩
  exact ⟨_, Expr.read_eq_ok_iff.mpr ⟨_, tiled, .single (.run isWord joined)⟩⟩

/-- Behind words that start a condition anything may follow but a connective. -/
theorem Lone.exists_span_append_iff (lone : Lone left) (blank : Text.allBlank gap = true)
    (apart : gap ≠ []) :
    (∃ span, Expr.read (left ++ (gap ++ right)) = .ok (.leaf span)) ↔
      Unconnected right := by
  constructor
  · rintro ⟨span, isLeaf⟩
    rw [← lone.unconnected.append_iff blank apart]
    rcases Expr.read_eq_ok_iff.mp isLeaf with ⟨all, whole, reads⟩
    cases reads with
    | single reads => exact ⟨all, whole, reads.unconnected⟩
  · exact fun unconnected => (lone.append blank apart unconnected).exists_span

/-! ## Their values -/

namespace Evaluator

variable {m : Type → Type} [Monad m] {vocabulary : Vocabulary m}

theorem evaluate_of_between (ignores : vocabulary.IgnoresExpression)
    {before after : List Char} (blank : Text.allBlank before = true)
    (blank' : Text.allBlank after = true) (condition : List Char) (object : Value) :
    Condition.evaluate vocabulary ⟨String.ofList condition, object⟩
      (String.ofList condition) =
      Condition.evaluate vocabulary ⟨String.ofList (before ++ condition ++ after), object⟩
        (String.ofList (before ++ condition ++ after)) := by
  have same := Condition.evaluate_ignoresExpression ignores
    ⟨String.ofList (before ++ condition ++ after), object⟩ (String.ofList condition)
    (String.ofList condition)
  rw [same, Condition.evaluate, Condition.evaluate, String.toList_ofList,
    String.toList_ofList, Text.trim_between blank blank']

theorem evaluate_of_lone (ignores : vocabulary.IgnoresExpression) (lone : Lone text)
    (object : Value) :
    (ofVocabulary vocabulary).evaluate (String.ofList text) object =
      Condition.evaluate vocabulary ⟨String.ofList text, object⟩
        (String.ofList text) := by
  rcases lone.exists_condition with ⟨before, condition, after, rfl, blank, blank', isLeaf⟩
  have leaves : ∀ other ∈ (Formula.leaf condition).leaves,
      Expr.read other = .ok (.leaf ⟨0, Text.byteSize other⟩) := by
    simpa [Formula.leaves] using isLeaf
  have written : Written .chain false (.leaf condition) condition := .single .leaf
  rcases written.exists_read leaves blank blank' with ⟨expr, result, isFormula⟩
  rw [evaluate_of_formula? ignores result isFormula leaves, Formula.evaluate,
    evaluate_of_leaf isLeaf]
  exact evaluate_of_between ignores blank blank' condition object

theorem evaluate_negated (ignores : vocabulary.IgnoresExpression) {keyword : List Char}
    (spelled : Text.upper keyword = "NOT".toList) (blank : Text.allBlank gap = true)
    (apart : gap ≠ []) (lone : Lone text) (object : Value) :
    (ofVocabulary vocabulary).evaluate (String.ofList (keyword ++ gap ++ text)) object =
      (do
        return !(← (ofVocabulary vocabulary).evaluate (String.ofList text) object)) := by
  rw [evaluate_of_lone ignores lone]
  rcases lone.exists_condition with
    ⟨before, condition, after, rfl, before', after', isLeaf⟩
  have leaves : ∀ other ∈ (Formula.not (.leaf condition)).leaves,
      Expr.read other = .ok (.leaf ⟨0, Text.byteSize other⟩) := by
    simpa [Formula.leaves] using isLeaf
  have wide := Text.allBlank_append blank before'
  have written : Written .chain false (.not (.leaf condition))
      (keyword ++ (gap ++ before) ++ condition) :=
    .single (.negation spelled wide (.inl (by simp [apart])) .leaf)
  have nothing : Text.allBlank [] = true := List.all_nil
  rcases written.exists_read leaves nothing after' with ⟨expr, result, isFormula⟩
  have regrouped : keyword ++ gap ++ (before ++ condition ++ after) =
      [] ++ (keyword ++ (gap ++ before) ++ condition) ++ after := by
    simp only [List.append_assoc, List.nil_append]
  rw [regrouped, evaluate_of_formula? ignores result isFormula leaves, Formula.evaluate,
    Formula.evaluate, evaluate_of_leaf isLeaf, evaluate_of_between ignores before' after']

end Evaluator

end Criteria
