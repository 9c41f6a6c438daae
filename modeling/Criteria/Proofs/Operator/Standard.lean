import Criteria.Operator.Standard
import Criteria.Proofs.Operator.Table

/-!
The names in the standard table.

The names that consist of keywords are few and short, so which words spell one can be
listed. No name has a quote in it.
-/

namespace Criteria

theorem Operator.keywords_joinKeywords {words : List (List Char)} (nonempty : words ≠ [])
    (solid : ∀ word ∈ words, ∀ character ∈ word, isBlank character = false) :
    keywords (joinKeywords words) = words.map Text.upper := by
  induction words with
  | nil => exact absurd rfl nonempty
  | cons word words induction =>
      rw [List.forall_mem_cons] at solid
      cases words with
      | nil => exact keywords_joinKeywords_singleton solid.1
      | cons next others =>
          rw [keywords_joinKeywords_cons next others solid.1,
            induction (List.cons_ne_nil _ _) solid.2]
          rfl

namespace OperatorTable

variable {m : Type → Type} {table : OperatorTable m} {operator : Operator m}

theorem map_upper_mem_of_keyword? {words : List (List Char)} (nonempty : words ≠ [])
    (solid : ∀ word ∈ words, ∀ character ∈ word, isBlank character = false)
    (found : table.keyword? words = some operator) :
    words.map Text.upper ∈ table.keywordNames.map Operator.keywords := by
  rw [← Operator.keywords_joinKeywords nonempty solid]
  exact List.mem_map_of_mem (mem_keywordNames_of_keyword? found)

end OperatorTable

namespace Operator

variable {m : Type → Type} [Monad m]

theorem keywordNames_standard :
    (standard : OperatorTable m).keywordNames = ["IN", "IS", "IS NOT", "NOT IN"] :=
  rfl

theorem noQuotes_standard :
    ∀ key ∈ (standard : OperatorTable m).keywordNames, '"' ∉ key.toList := by
  rw [keywordNames_standard]
  decide +kernel

def standardKeywords : List (List (List Char)) :=
  [["IN".toList], ["IS".toList], ["IS".toList, "NOT".toList], ["NOT".toList, "IN".toList]]

theorem map_upper_mem_standardKeywords {words : List (List Char)} {operator : Operator m}
    (nonempty : words ≠ [])
    (solid : ∀ word ∈ words, ∀ character ∈ word, isBlank character = false)
    (found : (standard : OperatorTable m).keyword? words = some operator) :
    words.map Text.upper ∈ standardKeywords := by
  have listed : (standard : OperatorTable m).keywordNames.map keywords =
      standardKeywords := by
    rw [keywordNames_standard]
    decide +kernel
  rw [← listed]
  exact OperatorTable.map_upper_mem_of_keyword? nonempty solid found

theorem keyword?_standard_eq_none {words : List (List Char)} (nonempty : words ≠ [])
    (solid : ∀ word ∈ words, ∀ character ∈ word, isBlank character = false)
    (other : words.map Text.upper ∉ standardKeywords) :
    (standard : OperatorTable m).keyword? words = none := by
  cases found : (standard : OperatorTable m).keyword? words with
  | none => rfl
  | some operator =>
      exact absurd (map_upper_mem_standardKeywords nonempty solid found) other

end Operator

end Criteria
