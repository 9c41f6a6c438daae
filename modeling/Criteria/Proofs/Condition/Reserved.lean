import Criteria.Proofs.Condition.Parts
import Criteria.Proofs.Condition.Written
import Criteria.Proofs.Registration

/-!
Literals without quotes: which of them are rejected, and what the others stand for.

Several words are a literal unless one of them looks as if another condition started
there: it is `NOT`, or the first keyword of a name, or it holds a symbol. A single
word is never looked at in this way. What is accepted stands for its words with one
space between them.
-/

namespace Criteria

open Text (words)

variable {m : Type → Type} {operators : OperatorTable m}

/-! ## Reserved words -/

namespace OperatorTable

theorem contains_of_getElem? {name key : String} {entry : Operator.Entry m}
    (found : operators.entries[key]? = some entry)
    (isKey : Operator.normalize name = key) :
    operators.contains name = true := by
  rw [contains, get?, isKey, found]
  rfl

theorem beginsKeyword_iff {word : List Char} (nonempty : word ≠ []) :
    operators.beginsKeyword word = true ↔ ∃ name, operators.contains name = true ∧
      Operator.kind name = .keyword ∧
      ∃ first ∈ (words name.toList).head?, Text.caseless word first = true := by
  rw [beginsKeyword, List.any_eq_true]
  constructor
  · rintro ⟨key, member, begins⟩
    rcases mem_keywordNames_iff.mp member with ⟨entry, found, isKeyword⟩
    rcases operators.named key entry found with ⟨name, rfl, isKind⟩
    rw [isKeyword] at isKind
    rw [head?_keywords_normalize isKind nonempty, Option.any_eq_true] at begins
    exact ⟨name, contains_of_getElem? found rfl, isKind, begins⟩
  · rintro ⟨name, contained, isKeyword, begins⟩
    rw [contains, get?, Option.isSome_map, Option.isSome_iff_exists] at contained
    rcases contained with ⟨entry, found⟩
    refine ⟨_, mem_keywordNames_iff.mpr ⟨entry, found, ?_⟩, ?_⟩
    · rw [kind_eq_of_getElem? found, isKeyword]
    · rw [head?_keywords_normalize isKeyword nonempty, Option.any_eq_true]
      exact begins

theorem get?_ofList_of_isSymbol {symbol : List Char}
    (symbolic : Operator.isSymbol symbol = true) :
    operators.get? (String.ofList symbol) = operators.symbol? symbol := by
  rw [get?_of_symbol (Operator.kind_of_isSymbol symbolic), String.toList_ofList,
    (Operator.isTrimmed_of_isSymbol symbolic).trim_eq]

theorem isSome_symbol?_iff {symbol : List Char} :
    (operators.symbol? symbol).isSome = true ↔ Operator.isSymbol symbol = true ∧
      operators.contains (String.ofList symbol) = true := by
  constructor
  · intro isSome
    rcases Option.isSome_iff_exists.mp isSome with ⟨operator, isOperator⟩
    have symbolic := isSymbol_of_symbol? isOperator
    exact ⟨symbolic, by rw [contains, get?_ofList_of_isSymbol symbolic, isSome]⟩
  · rintro ⟨symbolic, contained⟩
    rwa [contains, get?_ofList_of_isSymbol symbolic] at contained

end OperatorTable

namespace Condition

/-- A word with which another condition could start or go on, by the names in a table. -/
inductive Reserves (operators : OperatorTable m) (word : List Char) : Prop
  | negation (spelled : Text.caseless word "NOT".toList = true)
  | keyword {name : String} {first : List Char}
      (contained : operators.contains name = true)
      (isKeyword : Operator.kind name = .keyword)
      (isFirst : first ∈ (words name.toList).head?)
      (spelled : Text.caseless word first = true)
  | symbol {before symbol after : List Char} (equal : word = before ++ symbol ++ after)
      (symbolic : Operator.isSymbol symbol = true)
      (contained : operators.contains (String.ofList symbol) = true)
      (starts : ∀ character ∈ before.getLast?, isSymbolCharacter character = false)
      (stops : ∀ character ∈ after.head?, isSymbolCharacter character = false)

theorem isReserved_iff {word : List Char} (nonempty : word ≠ []) :
    isReserved operators word = true ↔ Reserves operators word := by
  rw [isReserved, Bool.or_eq_true, Bool.or_eq_true, or_assoc]
  constructor
  · rintro (isNegation | begins | holds)
    · exact .negation isNegation
    · rcases (OperatorTable.beginsKeyword_iff nonempty).mp begins with
        ⟨name, contained, isKeyword, first, isFirst, spelled⟩
      exact .keyword contained isKeyword isFirst spelled
    · rcases List.any_eq_true.mp holds with ⟨symbol, isRun, found⟩
      rw [Bool.and_eq_true, OperatorTable.isSome_symbol?_iff] at found
      rcases Text.exists_of_mem_splitWhere isRun with
        ⟨before, after, equal, starts, stops⟩
      exact .symbol equal found.2.1 found.2.2 (by simpa using starts)
        (by simpa using stops)
  · rintro (isNegation | ⟨contained, isKeyword, isFirst, spelled⟩ |
      ⟨rfl, symbolic, contained, starts, stops⟩)
    · exact .inl isNegation
    · exact .inr (.inl ((OperatorTable.beginsKeyword_iff nonempty).mpr
        ⟨_, contained, isKeyword, _, isFirst, spelled⟩))
    · have isSome := OperatorTable.isSome_symbol?_iff.mpr ⟨symbolic, contained⟩
      rcases Option.isSome_iff_exists.mp isSome with ⟨operator, found⟩
      have reserved :=
        isReserved_of_symbol found (Operator.isSymbol_iff.mp symbolic).2 starts stops
      rwa [isReserved, Bool.or_eq_true, Bool.or_eq_true, or_assoc] at reserved

/-! ## Literals without quotes -/

theorem any_isBlank_iff {text : List Char} (trimmed : Text.IsTrimmed text) :
    text.any isBlank = true ↔ 2 ≤ (words text).length := by
  constructor
  · intro hasBlank
    by_contra few
    have positive := trimmed.length_words_pos
    rcases List.length_eq_one_iff.mp (by omega : (words text).length = 1) with
      ⟨word, single⟩
    have solid := Text.solid_of_mem_words (single ▸ List.mem_singleton_self word)
    rw [← trimmed.eq_of_words_eq_singleton single] at solid
    rcases List.any_eq_true.mp hasBlank with ⟨character, member, blank⟩
    rw [solid character member] at blank
    cases blank
  · intro several
    by_contra noBlank
    have solid : ∀ character ∈ text, isBlank character = false := by simpa using noBlank
    rw [Text.words_of_solid trimmed.nonempty solid, List.length_singleton] at several
    omega

theorem eq_joinWords_of_literal? {text literal : List Char}
    (trimmed : Text.IsTrimmed text) (noQuote : text.head? ≠ some '"')
    (accepted : literal? operators text = some literal) :
    literal = Text.joinWords (words text) := by
  rw [literal?, if_neg (by simpa using trimmed.nonempty), if_neg noQuote] at accepted
  split at accepted
  · cases accepted
  split at accepted
  · simp only at accepted
    split at accepted <;> cases accepted
    rfl
  · rename_i noBlank
    cases accepted
    have solid : ∀ character ∈ text, isBlank character = false := by simpa using noBlank
    rw [Text.words_of_solid trimmed.nonempty solid, Text.joinWords,
      List.intercalate_singleton]

/-- What does not start with a quote is rejected for one of three reasons: there is
nothing, it holds a quote or a parenthesis, or it has several words and one of them
is reserved. -/
theorem literal?_eq_none_iff {text : List Char} (trimmed : Text.trim text = text)
    (noQuote : text.head? ≠ some '"') :
    literal? operators text = none ↔
      text = [] ∨ (∃ character ∈ text, character ∈ "\"()".toList) ∨
      (2 ≤ (words text).length ∧ ∃ word ∈ words text, Reserves operators word) := by
  by_cases nonempty : text = []
  · simp [nonempty, literal?]
  have isTrimmed : Text.IsTrimmed text := by
    rw [← trimmed] at nonempty ⊢
    exact Text.isTrimmed_trim nonempty
  have reserved : (words text).any (isReserved operators) = true ↔
      ∃ word ∈ words text, Reserves operators word := by
    rw [List.any_eq_true]
    refine exists_congr fun word => and_congr_right fun member => isReserved_iff ?_
    simpa using (List.mem_filter.mp member).2
  have enclosed : (text.any fun character => "\"()".toList.contains character) = true ↔
      ∃ character ∈ text, character ∈ "\"()".toList := by
    simp only [List.any_eq_true, List.contains_iff_mem]
  rw [literal?, if_neg (by simpa using nonempty), if_neg noQuote,
    ← any_isBlank_iff isTrimmed, ← reserved, ← enclosed]
  split
  · simp_all
  split
  · simp only
    split <;> simp_all
  · simp_all

end Condition

end Criteria
