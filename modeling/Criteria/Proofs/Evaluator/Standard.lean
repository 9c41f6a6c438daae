import Criteria.Proofs.Condition.Front
import Criteria.Proofs.Evaluator.Comparison
import Criteria.Proofs.Evaluator.Single
import Criteria.Proofs.Operator.Standard

/-!
Expressions that put a standard operator to the value at a path.

The words of a standard name are no connectives, even where one of them is `NOT`, so
whether the expression is a single condition depends on what follows the name. If it
is one, it is decided by the path, the literal and the operator, in whatever way the
three were written.
-/

namespace Criteria

open Text (quote words)
open Term (IsPlain)

/-! ## The words of the standard names -/

namespace Operator

/-- Only `IS` goes on to a longer standard name. -/
theorem append_not_mem_standardKeywords {front more : List (List Char)}
    (listed : front ∈ standardKeywords)
    (noNegation : front = ["IS".toList] → more.head? ≠ some "NOT".toList)
    (nonempty : more ≠ []) :
    front ++ more ∉ standardKeywords := by
  rcases List.exists_cons_of_ne_nil nonempty with ⟨first, others, rfl⟩
  simp only [standardKeywords, List.mem_cons, List.not_mem_nil, or_false] at listed ⊢
  rcases listed with rfl | rfl | rfl | rfl
  · simp
  · have other := noNegation rfl
    simp_all
  · simp
  · simp

theorem isPlain_of_mem_standardKeywords {keywords : List (List Char)} {word : List Char}
    (listed : keywords ∈ standardKeywords) (member : word ∈ keywords) :
    ∀ character ∈ word, IsPlain character := by
  have letters : ∀ keywords ∈ standardKeywords, ∀ word ∈ keywords, ∀ character ∈ word,
      character ∈ "ANDORNOT".toList ∨ character = 'I' ∨ character = 'S' := by
    simp [standardKeywords]
  intro character inWord
  rcases letters keywords listed word member character inWord with shared | rfl | rfl
  · exact Term.isPlain_of_mem_keywords shared
  · exact ⟨by decide, by decide, by decide, by decide⟩
  · exact ⟨by decide, by decide, by decide, by decide⟩

theorem unconnected_of_standardKeywords {words : List (List Char)} {text : List Char}
    (spaced : Spaced words text)
    (ordinary : ∀ word ∈ words, ∃ keywords ∈ standardKeywords,
      Text.upper word ∈ keywords) :
    Unconnected text := by
  have unconnected {word : List Char} (nonempty : word ≠ [])
      (listed : ∃ keywords ∈ standardKeywords, Text.upper word ∈ keywords) :
        Unconnected word := by
    rcases listed with ⟨keywords, listed, member⟩
    refine unconnected_of_word
      (Term.isWord_of_plain nonempty fun character inWord => ?_) ?_
    · have inUpper : character.toUpper ∈ Text.upper word := List.mem_map_of_mem inWord
      exact .of_toUpper (isPlain_of_mem_standardKeywords listed member _ inUpper)
    · intro connective isConnective
      have others : ∀ keywords ∈ standardKeywords, ∀ word ∈ keywords,
          Term.keyword? word ≠ some (.connective connective) := by
        cases connective <;> decide
      have sameKind : Term.keyword? (Text.upper word) = Term.keyword? word := by
        simp only [Term.keyword?, Text.caseless_iff, Text.upper_upper]
      exact others keywords listed _ member (sameKind.trans isConnective)
  induction spaced with
  | single nonempty => exact unconnected nonempty (ordinary _ List.mem_cons_self)
  | cons nonempty _ blank apart _ induction =>
      rw [List.forall_mem_cons] at ordinary
      rw [List.append_assoc, (unconnected nonempty ordinary.1).append_iff blank apart]
      exact induction ordinary.2

end Operator

def StartsNegated (text : List Char) : Prop :=
  (words text).head?.map Text.upper = some "NOT".toList

instance (text : List Char) : Decidable (StartsNegated text) :=
  inferInstanceAs (Decidable (_ = _))

/-- The name is that of a standard operator, and `rest` does not lengthen it. -/
structure Operator.Fits (name : String) (operator : Operator Id) (rest : List Char) :
    Prop where
  found : (standard : OperatorTable Id).get? name = some operator
  noNegation : (words name.toList).map Text.upper = ["IS".toList] → ¬ StartsNegated rest

theorem Operator.fits_of_ne_is {name : String} {operator : Operator Id} {rest : List Char}
    (found : (standard : OperatorTable Id).get? name = some operator)
    (other : (words name.toList).map Text.upper ≠ ["IS".toList]) :
    Fits name operator rest :=
  ⟨found, fun isIs => absurd isIs other⟩

theorem unconnected_quote (content : List Char) : Unconnected (quote content) := by
  refine unconnected_of_word ?_ fun connective => ?_
  · exact (Term.isSeamless_quote content).isWord (Text.isTrimmed_quote content).nonempty
  · rw [(Literal.quoted content).keyword?_eq_none]
    exact nofun

theorem Run.lone {text : List Char} (run : Run text) : Lone text := by
  rcases run.exists_tiled 0 with ⟨first, others, tiled, _, _, areWords⟩
  rw [List.forall_mem_cons] at areWords
  refine ⟨first, others, tiled, areWords.1, fun term member connective => ?_⟩
  rw [areWords.2 term member]
  exact nofun

/-! ## The expressions -/

theorem Value.get?_of_read? {text : List Char} {path : Path}
    (isPath : Path.read? text = some path) (value : Value) :
    value.get? (String.ofList text) = value.follow? path := by
  rw [get?, String.toList_ofList, isPath, Option.bind_some]

/-- The texts that put an operator to a path, with `rest` behind it. Gaps and letter
case are free, but next to the operator only a quotation may stand, and only if the
operator is a symbol. -/
inductive Asks (subject : Subject.Name) (name : String) (rest : List Char) :
    List Char → Prop
  | intro {gap text gap' : List Char} (spelled : Operator.Spelled name gap text gap')
      (apart : gap' ≠ [] ∨ ∃ content, rest = quote content) :
      Asks subject name rest (subject.text ++ gap ++ text ++ gap' ++ rest)

section Front

variable {subject : Subject.Name} {name : String} {operator : Operator Id}
  {gap text gap' rest : List Char}

theorem Operator.Spelled.noSymbol_after (spelled : Operator.Spelled name gap text gap')
    (apart : gap' ≠ [] ∨ ∃ content, rest = quote content) :
    ∀ next ∈ (gap' ++ rest).head?, isSymbolCharacter next = false := by
  intro next isHead
  rcases apart with apart | ⟨content, rfl⟩
  · exact isSymbolCharacter_of_isBlank
      (Term.isBlank_of_head_gap spelled.blank_after apart next isHead)
  · rcases Text.isBlank_or_mem_head? spelled.blank_after isHead with blank | isQuote
    · exact isSymbolCharacter_of_isBlank blank
    · cases isQuote
      decide

theorem Operator.Spelled.lone (spelled : Operator.Spelled name gap text gap')
    (found : (Operator.standard : OperatorTable Id).get? name = some operator)
    (noKeyword : Term.keyword? subject.text = none) :
    Lone (subject.text ++ (gap ++ text)) := by
  cases spelled with
  | symbol isSymbol blank =>
      rw [OperatorTable.get?_of_symbol isSymbol] at found
      have seamless := OperatorTable.isSeamless_of_symbol? found
      have nonempty := (OperatorTable.symbol_of_symbol? found).1
      by_cases touches : gap = []
      · rw [touches, List.nil_append]
        refine lone_of_word (subject.isWord.append seamless) ?_
        have none := OperatorTable.keyword?_append_eq_none found subject.text []
        rwa [List.append_nil] at none
      · refine (lone_of_word subject.isWord noKeyword).append blank touches ?_
        refine unconnected_of_word (seamless.isWord nonempty) fun connective => ?_
        have none := OperatorTable.keyword?_append_eq_none found [] []
        rw [List.nil_append, List.append_nil] at none
        rw [none]
        exact nofun
  | keyword isKeyword spaced caseless _ blank apart =>
      refine (lone_of_word subject.isWord noKeyword).append blank apart ?_
      have listed := Operator.map_upper_mem_standardKeywords spaced.ne_nil spaced.solid
        (OperatorTable.keyword?_of_get? isKeyword caseless found)
      exact Operator.unconnected_of_standardKeywords spaced fun word member =>
        ⟨_, listed, List.mem_map_of_mem member⟩

theorem Operator.Spelled.chooses_standard (spelled : Operator.Spelled name gap text gap')
    (fits : Operator.Fits name operator rest)
    (apart : gap' ≠ [] ∨ ∃ content, rest = quote content) :
    Condition.Chooses Operator.standard (text ++ (gap' ++ rest)) text operator
      (gap' ++ rest) := by
  have found := fits.found
  refine spelled.chooses found
    (spelled.noSymbol_after apart) fun isKeyword more nonempty isNext => ?_
  cases spelled with
  | symbol isSymbol =>
      rw [isSymbol] at isKeyword
      cases isKeyword
  | keyword _ spaced caseless =>
      have listed := Operator.map_upper_mem_standardKeywords spaced.ne_nil spaced.solid
        (OperatorTable.keyword?_of_get? isKeyword caseless found)
      rw [spaced.words_eq]
      refine Operator.keyword?_standard_eq_none (by simp [nonempty])
        (fun word member => ?_) ?_
      · rcases List.mem_append.mp member with inName | inMore
        · exact spaced.solid word inName
        · exact Text.solid_of_mem_words (isNext.subset inMore)
      · rw [List.map_append]
        refine Operator.append_not_mem_standardKeywords listed (fun isIs => ?_)
          (by simp [nonempty])
        rcases isNext with ⟨others, equal⟩
        rw [List.head?_map, ← List.head?_append_of_ne_nil more nonempty, equal]
        exact fits.noNegation (caseless.symm.trans isIs)

end Front

namespace Asks

variable {subject : Subject.Name} {name : String} {operator : Operator Id}
  {rest whole : List Char}

theorem lone (asks : Asks subject name rest whole)
    (found : (Operator.standard : OperatorTable Id).get? name = some operator)
    (noKeyword : Term.keyword? subject.text = none) (unconnected : Unconnected rest) :
    Lone whole := by
  rcases asks with @⟨gap, text, gap', spelled, apart⟩
  by_cases touches : gap' = []
  · rcases apart.resolve_left (absurd touches) with ⟨content, rfl⟩
    cases spelled with
    | symbol isSymbol blank blank' =>
        rw [OperatorTable.get?_of_symbol isSymbol] at found
        exact (run_comparison subject.isWord noKeyword found blank blank'
          (.quoted content)).lone
    | keyword _ _ _ _ _ _ _ apart' => exact absurd touches apart'
  · have front := spelled.lone found noKeyword
    have joined := front.append spelled.blank_after touches unconnected
    simpa only [List.append_assoc] using joined

theorem exists_span_iff (asks : Asks subject name rest whole)
    (found : (Operator.standard : OperatorTable Id).get? name = some operator)
    (noKeyword : Term.keyword? subject.text = none) :
    (∃ span, Expr.read whole = .ok (.leaf span)) ↔ Unconnected rest := by
  refine ⟨fun isLeaf => ?_, fun unconnected =>
    (asks.lone found noKeyword unconnected).exists_span⟩
  rcases asks with @⟨gap, text, gap', spelled, apart⟩
  by_cases touches : gap' = []
  · rcases apart.resolve_left (absurd touches) with ⟨content, rfl⟩
    exact unconnected_quote content
  · have front := spelled.lone found noKeyword
    rw [← front.exists_span_append_iff spelled.blank_after touches]
    simpa only [List.append_assoc] using isLeaf

theorem evaluate_eq_ok_iff (asks : Asks subject name rest whole)
    (fits : Operator.Fits name operator rest)
    (noKeyword : Term.keyword? subject.text = none) (unconnected : Unconnected rest)
    (object : Value) :
    ∃ tokens, ∀ truth, evaluate (String.ofList whole) object = .ok truth ↔
      ∃ path literal, Path.read? subject.text = some path ∧
        Condition.literal? (Operator.standard : OperatorTable Id) (Text.trim rest) =
          some literal ∧
        operator {
          value := object.follow? path
          literal := String.ofList literal
          tokens
          context := ⟨String.ofList whole, object⟩ } = .ok truth := by
  have lone := asks.lone fits.found noKeyword unconnected
  rcases asks with @⟨gap, text, gap', spelled, apart⟩
  rw [List.append_assoc _ gap' rest] at lone ⊢
  have asCondition :
      evaluate (String.ofList (subject.text ++ gap ++ text ++ (gap' ++ rest))) object =
      Condition.evaluate (m := Id) ⟨Operator.standard, ValueFunction.standard⟩ ⟨_, object⟩
        (String.ofList (subject.text ++ gap ++ text ++ (gap' ++ rest))) :=
    Evaluator.evaluate_of_lone Vocabulary.standard_ignoresExpression lone object
  have chooses := spelled.chooses_standard fits apart
  have trimmed := Text.trim_between spelled.blank_after List.all_nil rest
  rw [List.append_nil] at trimmed
  refine ⟨[subject.text, text, Text.trim (gap' ++ rest)].map String.ofList,
    fun truth => ?_⟩
  rw [asCondition, ← trimmed]
  exact Condition.evaluate_eq_ok_iff subject spelled.blank_before
    (fun rest => spelled.endsPath rest) chooses ⟨_, object⟩ truth

end Asks

end Criteria
