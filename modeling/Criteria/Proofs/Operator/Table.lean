import Criteria.Proofs.Operator.Names

/-!
Tables of operators and the kinds of names.

An entry was added with a name of its normal form, and that form has one kind. So
the look-up by any name, the one by a symbol and the one by keywords find the
same operators.
-/

namespace Criteria

theorem getD_max?_le_iff {numbers : List Nat} {bound : Nat} :
    numbers.max?.getD 0 ≤ bound ↔ ∀ number ∈ numbers, number ≤ bound := by
  cases greatest : numbers.max? with
  | none =>
      rw [List.max?_eq_none_iff] at greatest
      subst greatest
      simp
  | some number => exact List.max?_le_iff greatest

namespace OperatorTable

variable {m : Type → Type} {table : OperatorTable m}

theorem kind_eq_of_getElem? {name : String} {entry : Operator.Entry m}
    (found : table.entries[Operator.normalize name]? = some entry) :
    entry.kind = Operator.kind name := by
  rcases table.named _ entry found with ⟨other, same, isKind⟩
  rw [← isKind, Operator.kind_eq_of_normalize_eq same]

theorem ofKind?_eq_some_iff {kind : Operator.Kind} {key : String}
    {operator : Operator m} :
    table.ofKind? kind key = some operator ↔
      table.entries[key]? = some ⟨kind, operator⟩ := by
  rw [ofKind?, Option.map_eq_some_iff]
  simp only [Option.filter_eq_some_iff, decide_eq_true_eq]
  constructor
  · rintro ⟨⟨kind, operator⟩, ⟨found, rfl⟩, rfl⟩
    exact found
  · exact fun found => ⟨_, ⟨found, rfl⟩, rfl⟩

theorem get?_eq_ofKind? (name : String) :
    table.get? name = table.ofKind? (Operator.kind name) (Operator.normalize name) := by
  rw [get?, ofKind?]
  cases found : table.entries[Operator.normalize name]? with
  | none => rfl
  | some entry => rw [Option.filter_some_pos (by simp [kind_eq_of_getElem? found])]

/-! ## Symbols -/

theorem isSymbol_of_symbol? {symbol : List Char} {operator : Operator m}
    (found : table.symbol? symbol = some operator) : Operator.isSymbol symbol = true := by
  rcases table.named _ _ (ofKind?_eq_some_iff.mp found) with ⟨name, isKey, isKind⟩
  rw [Operator.kind_eq_symbol_iff, ← Operator.isSymbol_normalize, isKey,
    String.toList_ofList] at isKind
  exact isKind

theorem get?_of_symbol {name : String} (isSymbol : Operator.kind name = .symbol) :
    table.get? name = table.symbol? (Text.trim name.toList) := by
  rw [get?_eq_ofKind?, isSymbol, Operator.normalize_of_symbol isSymbol, symbol?]

/-! ## Keywords -/

theorem get?_of_keyword {name : String} (isKeyword : Operator.kind name = .keyword) :
    table.get? name = table.keyword? (Text.words name.toList) := by
  rw [get?_eq_ofKind?, isKeyword, Operator.normalize_of_keyword isKeyword, keyword?]

theorem keyword?_of_get? {name : String} {words : List (List Char)}
    {operator : Operator m} (isKeyword : Operator.kind name = .keyword)
    (caseless : words.map Text.upper = (Text.words name.toList).map Text.upper)
    (found : table.get? name = some operator) : table.keyword? words = some operator := by
  rw [get?_of_keyword isKeyword] at found
  rw [← found, keyword?, keyword?, Operator.joinKeywords, Operator.joinKeywords, caseless]

theorem mem_keywordNames_iff {key : String} :
    key ∈ table.keywordNames ↔
      ∃ entry, table.entries[key]? = some entry ∧ entry.kind = .keyword := by
  simp only [keywordNames, List.mem_map, List.mem_filter, decide_eq_true_eq, Prod.exists,
    Std.TreeMap.mem_toList_iff_getElem?_eq_some, exists_and_right, exists_eq_right]

theorem mem_keywordNames_of_keyword? {words : List (List Char)} {operator : Operator m}
    (found : table.keyword? words = some operator) :
    Operator.joinKeywords words ∈ table.keywordNames :=
  mem_keywordNames_iff.mpr ⟨_, ofKind?_eq_some_iff.mp found, rfl⟩

theorem longestKeyword_le_iff {bound : Nat} : table.longestKeyword ≤ bound ↔
    ∀ key ∈ table.keywordNames, (Operator.keywords key).length ≤ bound := by
  rw [longestKeyword, getD_max?_le_iff, List.forall_mem_map]

theorem length_le_longestKeyword {words : List (List Char)} {operator : Operator m}
    (found : table.keyword? words = some operator)
    (solid : ∀ word ∈ words, ∀ character ∈ word, isBlank character = false) :
    words.length ≤ table.longestKeyword := by
  have bound :=
    longestKeyword_le_iff.mp (Nat.le_refl _) _ (mem_keywordNames_of_keyword? found)
  rw [Operator.length_keywords_joinKeywords solid] at bound
  omega

theorem keyword?_eq_none_of_quote {words : List (List Char)} {word : List Char}
    (noQuotes : ∀ key ∈ table.keywordNames, '"' ∉ key.toList) (member : word ∈ words)
    (inWord : '"' ∈ word) : table.keyword? words = none := by
  cases found : table.keyword? words with
  | none => rfl
  | some operator =>
      have inKey := Operator.toUpper_mem_joinKeywords member inWord
      exact absurd inKey (noQuotes _ (mem_keywordNames_of_keyword? found))

theorem keyword?_eq_none_of_symbol? {text : List Char} {operator : Operator m}
    (found : table.symbol? text = some operator) : table.keyword? [text] = none := by
  have sameKey : Operator.joinKeywords [text] = String.ofList text := by
    rw [← String.toList_inj, Operator.toList_joinKeywords_singleton, String.toList_ofList,
      Operator.upper_of_isSymbol (isSymbol_of_symbol? found)]
  rw [keyword?, sameKey, ofKind?, ofKind?_eq_some_iff.mp found]
  rfl

end OperatorTable

end Criteria
