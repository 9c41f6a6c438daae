import Criteria.Proofs.Condition.Operator
import Criteria.Proofs.Condition.Subject

/-!
Conditions with more text behind them.

A condition is taken apart from left to right. Its subject ends where something else
follows, and so does its operator, so neither of them changes with what comes after the
literal. All that is added to a condition is added to its literal, and a literal cannot
hold the beginning of another condition.
-/

namespace Criteria

variable {m : Type → Type}

/-! ## The keywords of an operator -/

theorem OperatorTable.beginsKeyword_of_keyword? {operators : OperatorTable m}
    {operator : Operator m} {word : List Char} {words : List (List Char)}
    (found : operators.keyword? (word :: words) = some operator)
    (solid : ∀ character ∈ word, isBlank character = false) :
    operators.beginsKeyword word = true := by
  refine List.any_eq_true.mpr ⟨_, mem_keywordNames_of_keyword? found, ?_⟩
  rw [Operator.head?_keywords_joinKeywords solid, Option.any_some, Text.caseless_iff,
    Text.upper_upper]

namespace Condition

/-! ## The beginning of another condition -/

/-- How a text begins that would be an operand of an expression: with a parenthesis,
with `NOT`, or with a condition, which is all of it. -/
inductive Begins (operators : OperatorTable m) : List Char → Prop
  | parenthesis {rest : List Char} : Begins operators ('(' :: rest)
  | negation {word rest : List Char} (keyword : Term.keyword? word = some .negation)
      (ends : ∀ next ∈ rest.head?, Term.EndsBefore word next) :
        Begins operators (word ++ rest)
  | condition {text : List Char} {parts : Parts m}
      (found : parts? operators text = some parts) :
      Begins operators text

theorem caseless_of_negation {word : List Char}
    (keyword : Term.keyword? word = some .negation) :
    Text.caseless word "NOT".toList = true := by
  unfold Term.keyword? at keyword
  split at keyword
  · cases keyword
  split at keyword
  · cases keyword
  split at keyword
  · assumption
  · cases keyword

theorem isReserved_of_symbol {operators : OperatorTable m} {operator : Operator m}
    {front symbol back : List Char} (found : operators.symbol? symbol = some operator)
    (all : ∀ character ∈ symbol, isSymbolCharacter character = true)
    (starts : ∀ character ∈ front.getLast?, isSymbolCharacter character = false)
    (stops : ∀ character ∈ back.head?, isSymbolCharacter character = false) :
    isReserved operators (front ++ symbol ++ back) = true := by
  have nonempty := (OperatorTable.symbol_of_symbol? found).1
  have isRun :
      symbol ∈ Text.splitWhere (!isSymbolCharacter ·) (front ++ symbol ++ back) := by
    apply Text.mem_splitWhere
    · simpa using all
    · simpa using starts
    · simpa using stops
  rw [isReserved, Bool.or_eq_true]
  refine .inr (List.any_eq_true.mpr ⟨symbol, isRun, ?_⟩)
  simp [found, nonempty]

theorem exists_reserved_of_operator? {operators : OperatorTable m} {operator : Operator m}
    {before text operatorText after : List Char}
    (found : operator? operators text = some (operatorText, operator, after))
    (noSymbol : ∀ character ∈ before.getLast?, isSymbolCharacter character = false)
    (apart : text.head?.any isSymbolCharacter = false →
      ∀ character ∈ before.getLast?, isBlank character = true) :
    ∃ word ∈ Text.words (before ++ text), isReserved operators word = true := by
  rcases operator?_cases found with
    ⟨rfl, isOperator, stops⟩ | ⟨notSymbol, phrase, member, _, isKeyword⟩
  · rcases OperatorTable.symbol_of_symbol? isOperator with ⟨nonempty, isSymbol⟩
    have solid : ∀ character ∈ operatorText, isBlank character = false :=
      fun character member =>
        (isPlain_of_isSymbolCharacter (isSymbol character member)).solid
    rcases Text.exists_mem_words nonempty solid with
      ⟨front, back, member, ⟨skipped, beforeEq⟩, rest, afterEq⟩
    rw [List.append_assoc] at member
    refine ⟨_, member, isReserved_of_symbol isOperator isSymbol ?_ ?_⟩
    · intro character isLast
      apply noSymbol
      rw [beforeEq]
      exact List.mem_getLast?_append_of_mem_getLast? isLast
    · intro character isHead
      apply stops
      rw [afterEq]
      exact List.mem_head?_append_of_mem_head? isHead
  · rcases exists_head_of_mem_phrases member with
      ⟨word, afterWord, others, wordSpan, nonempty, wordsEq⟩
    rw [Text.span_eq_iff] at wordSpan
    rcases wordSpan with ⟨rfl, solid, stops⟩
    have solid' : ∀ character ∈ word, isBlank character = false := by simpa using solid
    rw [wordsEq] at isKeyword
    refine ⟨word, ?_, ?_⟩
    · rw [← List.append_assoc]
      exact Text.mem_words nonempty solid' (apart notSymbol) (by simpa using stops)
    · rw [isReserved, OperatorTable.beginsKeyword_of_keyword? isKeyword solid',
        Bool.or_true, Bool.true_or]

theorem exists_reserved_of_negation {operators : OperatorTable m} {word rest : List Char}
    (keyword : Term.keyword? word = some .negation)
    (ends : ∀ next ∈ rest.head?, isBlank next = true) :
    ∃ reserved ∈ Text.words (word ++ rest), isReserved operators reserved = true := by
  have isWord := Term.isWord_of_keyword? keyword
  have solid : ∀ character ∈ word, isBlank character = false :=
    fun character member => (Term.isPlain_of_keyword? keyword character member).solid
  have member : word ∈ Text.words ([] ++ word ++ rest) :=
    Text.mem_words isWord.nonempty solid (by simp) ends
  refine ⟨word, member, ?_⟩
  rw [isReserved, caseless_of_negation keyword, Bool.true_or, Bool.true_or]

theorem exists_reserved_of_parts? {operators : OperatorTable m} {text : List Char}
    {parts : Parts m} (found : parts? operators text = some parts) (bare : IsBare text) :
    ∃ word ∈ Text.words text, isReserved operators word = true := by
  rcases finds_of_parts? found with @⟨_, _, _, after, _, _, _, isSubject, isOperator, _⟩
  rcases (Subject.read?_eq_some_iff.mp isSubject).exists_path bare with
    ⟨name, rfl, isName⟩
  rcases Text.exists_trimStart after with ⟨gap, afterEq, blank, solid⟩
  have regrouped : name ++ after = (name ++ gap) ++ Text.trimStart after := by
    rw [List.append_assoc, ← afterEq]
  rw [regrouped]
  apply exists_reserved_of_operator? isOperator
  · intro character isLast
    rcases List.mem_append.mp (List.mem_of_mem_getLast? isLast) with inName | inGap
    · exact (Subject.isNameCharacter_iff.mp (isName.named character inName)).2.1
    · exact isSymbolCharacter_of_isBlank (List.all_eq_true.mp blank character inGap)
  · intro noSymbol character isLast
    rcases List.eq_nil_or_concat gap with rfl | ⟨others, last, rfl⟩
    · -- What touches a name is blank or a symbol, for there are no quotes and no
      -- parentheses.
      rw [List.nil_append] at afterEq
      rw [← afterEq] at solid noSymbol isOperator
      cases after with
      | nil => exact absurd rfl (ne_nil_of_operator? isOperator)
      | cons next others =>
          have isNext := Subject.isNameCharacter_iff.mpr
            ⟨solid next rfl, by simpa using noSymbol, bare next (by simp)⟩
          rw [isName.stops next rfl] at isNext
          cases isNext
    · rw [List.concat_eq_append] at blank isLast
      rw [← List.append_assoc, List.getLast?_concat] at isLast
      cases isLast
      exact List.all_eq_true.mp blank character (by simp)

theorem Begins.exists_reserved {operators : OperatorTable m} {text : List Char}
    (begins : Begins operators text) (bare : IsBare text) :
    ∃ word ∈ Text.words text, isReserved operators word = true := by
  cases begins with
  | parenthesis => exact absurd (by decide) (bare '(' List.mem_cons_self)
  | negation keyword ends =>
      apply exists_reserved_of_negation keyword
      intro next isHead
      rcases ends next isHead with blank | ⟨rfl, _⟩
      · exact blank
      · exact absurd (by decide)
          (bare '(' (List.mem_append_right _ (List.mem_of_mem_head? isHead)))
  | condition found => exact exists_reserved_of_parts? found bare

/-- A literal cannot go on with a gap and the beginning of another condition: after a
quoted one nothing may stand, and in other literals there are no parentheses, quotes and
reserved words. -/
theorem literal?_append_eq_none {operators : OperatorTable m}
    {literal content gap text : List Char}
    (found : literal? operators literal = some content) (blank : Text.allBlank gap = true)
    (apart : gap ≠ []) (begins : Begins operators text) :
    literal? operators (literal ++ gap ++ text) = none := by
  unfold literal? at found
  split at found
  · cases found
  rename_i nonempty
  rw [List.isEmpty_iff] at nonempty
  have nonemptyMore : ¬ (literal ++ gap ++ text).isEmpty = true := by simp [nonempty]
  have sameHead : (literal ++ gap ++ text).head? = literal.head? := by
    rw [List.append_assoc, List.head?_append_of_ne_nil _ nonempty]
  rw [literal?, if_neg nonemptyMore, sameHead]
  split at found
  · rename_i isQuoted
    have more : gap ++ text ≠ [] := by simp [apart]
    rw [if_pos isQuoted, List.append_assoc, Text.unquote?_append_eq_none found more]
  rename_i notQuoted
  rw [if_neg notQuoted]
  by_cases enclosed : (literal ++ gap ++ text).any fun character =>
    "\"()".toList.contains character
  · rw [if_pos enclosed]
  have bare : IsBare text := by
    intro character member isEnclosure
    apply enclosed
    exact List.any_eq_true.mpr ⟨character, by simp [member], by simpa using isEnclosure⟩
  have hasGap : (literal ++ gap ++ text).any isBlank = true := by
    cases gap with
    | nil => exact absurd rfl apart
    | cons character others =>
        rw [Text.allBlank, List.all_cons, Bool.and_eq_true] at blank
        exact List.any_eq_true.mpr ⟨character, by simp, blank.1⟩
  rcases begins.exists_reserved bare with ⟨word, member, reserved⟩
  have someReserved : (Text.words (literal ++ gap ++ text)).any (isReserved operators) =
      true := by
    rw [Text.words_append blank apart]
    exact List.any_eq_true.mpr ⟨word, List.mem_append_right _ member, reserved⟩
  rw [if_neg enclosed, if_pos hasGap]
  exact if_pos someReserved

/-- Two conditions, or one and the beginning of another, are not one condition. -/
theorem parts?_append_eq_none {operators : OperatorTable m} {left gap right : List Char}
    {parts : Parts m} (short : operators.longestKeyword ≤ 2)
    (found : parts? operators left = some parts) (blank : Text.allBlank gap = true)
    (apart : gap ≠ []) (begins : Begins operators right)
    (trimmed : Text.IsTrimmed right) :
    parts? operators (left ++ gap ++ right) = none := by
  rcases finds_of_parts? found with
    @⟨_, _, _, _, _, afterOperator, _, isSubject, isOperator, isLiteral⟩
  have subjectGoesOn := ne_nil_of_operator? isOperator
  have literalTrimmed : Text.IsTrimmed (Text.trim afterOperator) := by
    apply Text.isTrimmed_trim
    intro none
    rw [none] at isLiteral
    cases isLiteral
  have operatorFilled : Text.allBlank afterOperator = false := by
    rw [← Bool.not_eq_true, ← Text.trimStart_eq_nil_iff]
    intro none
    apply literalTrimmed.nonempty
    rw [Text.trim, none]
    rfl
  have gapStarts : ∀ next ∈ (gap ++ right).head?, isBlank next = true :=
    Term.isBlank_of_head_gap blank apart
  rcases Text.exists_trim afterOperator with
    ⟨before, after, equal, blankBefore, blankAfter⟩
  have literalMore : Text.trim (afterOperator ++ (gap ++ right)) =
      Text.trim afterOperator ++ (after ++ gap) ++ right := by
    have regrouped : afterOperator ++ (gap ++ right) =
        before ++ (Text.trim afterOperator ++ (after ++ gap) ++ right) ++ [] := by
      rw [List.append_nil]
      nth_rewrite 1 [equal]
      simp only [List.append_assoc]
    rw [regrouped]
    exact Text.trim_eq blankBefore rfl (literalTrimmed.append trimmed _)
  have blankBetween : Text.allBlank (after ++ gap) = true :=
    Text.allBlank_append blankAfter blank
  have subjectMore :=
    (Subject.read?_eq_some_iff.mp isSubject).append subjectGoesOn (gap ++ right)
  have noLiteral :=
    literal?_append_eq_none isLiteral blankBetween (by simp [apart]) begins
  rw [List.append_assoc, parts?, subjectMore.read?_eq]
  simp only [Option.bind_eq_bind, Option.bind_some]
  rw [Text.trimStart_append_of_ne_nil subjectGoesOn,
    operator?_append isOperator operatorFilled short gapStarts]
  simp only [Option.bind_some, literalMore, noLiteral, Option.bind_none]

end Condition

end Criteria
