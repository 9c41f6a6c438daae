import Criteria.Proofs.Operator.Table

/-!
Adding an operator to a table.

Afterwards only the name that was added is found differently, in all of its spellings. A
symbol has one spelling. Keywords are a spelling of a name if they are the keywords of
the name in some letter case.
-/

namespace Criteria

open Text (words)

theorem Text.ne_nil_of_mem_words {text word : List Char} (member : word ∈ words text) :
    word ≠ [] := by
  simpa using (List.mem_filter.mp member).2

namespace Operator

/-! ## Spellings -/

theorem words_joinKeywords {keywords : List (List Char)}
    (filled : ∀ word ∈ keywords, word ≠ [])
    (solid : ∀ word ∈ keywords, ∀ character ∈ word, isBlank character = false) :
    words (joinKeywords keywords).toList = keywords.map Text.upper := by
  have words_upper {word : List Char} (nonempty : word ≠ [])
      (solid : ∀ character ∈ word, isBlank character = false) :
      words (Text.upper word) = [Text.upper word] := by
    refine Text.words_of_solid (by simpa [Text.upper] using nonempty)
      fun character member => ?_
    rcases List.mem_map.mp member with ⟨lower, inWord, rfl⟩
    rw [Term.isBlank_toUpper, solid lower inWord]
  induction keywords with
  | nil => rfl
  | cons word others induction =>
      rw [List.forall_mem_cons] at filled solid
      cases others with
      | nil => rw [toList_joinKeywords_singleton, words_upper filled.1 solid.1,
          List.map_singleton]
      | cons next others =>
          have space : Text.allBlank [' '] = true := by decide
          rw [toList_joinKeywords_cons, ← List.singleton_append, ← List.append_assoc,
            Text.words_append space (by decide), words_upper filled.1 solid.1,
            induction filled.2 solid.2]
          rfl

theorem normalize_eq_joinKeywords_iff {name : String} {keywords : List (List Char)}
    (isKeyword : kind name = .keyword) (filled : ∀ word ∈ keywords, word ≠ [])
    (solid : ∀ word ∈ keywords, ∀ character ∈ word, isBlank character = false) :
    normalize name = joinKeywords keywords ↔
      (words name.toList).map Text.upper = keywords.map Text.upper := by
  rw [normalize_of_keyword isKeyword]
  constructor
  · intro same
    have spelled := congrArg (fun key : String => words key.toList) same
    rwa [words_joinKeywords (fun _ => Text.ne_nil_of_mem_words) fun _ =>
      Text.solid_of_mem_words, words_joinKeywords filled solid] at spelled
  · intro same
    rw [joinKeywords, same, joinKeywords]

theorem upper_words_of_normalize_eq {left right : String}
    (isKeyword : kind left = .keyword) (same : normalize left = normalize right) :
    (words left.toList).map Text.upper = (words right.toList).map Text.upper := by
  rw [normalize_of_keyword ((kind_eq_of_normalize_eq same).symm.trans isKeyword)] at same
  exact (normalize_eq_joinKeywords_iff isKeyword (fun _ => Text.ne_nil_of_mem_words)
    fun _ => Text.solid_of_mem_words).mp same

theorem trim_of_normalize_eq {left right : String} (isSymbol : kind left = .symbol)
    (same : normalize left = normalize right) :
    Text.trim left.toList = Text.trim right.toList := by
  have isSymbol' := (kind_eq_of_normalize_eq same).symm.trans isSymbol
  rw [normalize_of_symbol isSymbol, normalize_of_symbol isSymbol'] at same
  exact String.ofList_inj.mp same

end Operator

/-! ## Look-ups -/

namespace OperatorTable

variable {m : Type → Type} {table : OperatorTable m} {name : String}
  {operator : Operator m}

theorem ofKind?_insert (kind : Operator.Kind) (key : String) :
    (table.insert name operator).ofKind? kind key =
      if Operator.normalize name = key ∧ Operator.kind name = kind then some operator
      else table.ofKind? kind key := by
  rw [ofKind?, insert, Std.TreeMap.getElem?_insert]
  by_cases isKey : Operator.normalize name = key
  · subst isKey
    by_cases isKind : Operator.kind name = kind
    · simp [isKind]
    · -- An entry with this normal form has the kind of the name, so none was found
      -- before either.
      have none : table.ofKind? kind (Operator.normalize name) = none := by
        rw [ofKind?]
        cases found : table.entries[Operator.normalize name]? with
        | none => rfl
        | some entry => simp [kind_eq_of_getElem? found, isKind]
      simp [isKind, none]
  · simp [isKey, ofKind?]

theorem get?_insert (other : String) :
    (table.insert name operator).get? other =
      if Operator.normalize name = Operator.normalize other then some operator
      else table.get? other := by
  rw [get?_eq_ofKind?, get?_eq_ofKind?, ofKind?_insert]
  by_cases same : Operator.normalize name = Operator.normalize other
  · rw [if_pos same, if_pos ⟨same, Operator.kind_eq_of_normalize_eq same⟩]
  · rw [if_neg same, if_neg fun both => same both.1]

theorem contains_insert {other : String} :
    (table.insert name operator).contains other = true ↔
      table.contains other = true ∨
      Operator.normalize name = Operator.normalize other := by
  rw [contains, get?_insert, contains]
  split
  · simp [*]
  · simp [*]

theorem keyword?_insert {keywords : List (List Char)}
    (filled : ∀ word ∈ keywords, word ≠ [])
    (solid : ∀ word ∈ keywords, ∀ character ∈ word, isBlank character = false) :
    (table.insert name operator).keyword? keywords =
      if Operator.kind name = .keyword ∧
        (words name.toList).map Text.upper = keywords.map Text.upper then some operator
      else table.keyword? keywords := by
  rw [keyword?, ofKind?_insert, keyword?]
  refine if_congr (and_comm.trans (and_congr_right fun isKeyword => ?_)) rfl rfl
  exact Operator.normalize_eq_joinKeywords_iff isKeyword filled solid

end OperatorTable

end Criteria
