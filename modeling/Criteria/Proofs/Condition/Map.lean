import Criteria.Proofs.Condition.Decomposition

/-!
Conditions over a table whose operators are replaced.

How a condition is taken apart depends on the names in the table only. So the operators
of a table can be replaced, each by one that is made from it, and every condition keeps
its parts but for the operator.
-/

namespace Criteria

variable {m n : Type → Type}

/-! ## Tables -/

namespace OperatorTable

/-- The table of the same names in which `replace` makes the operators from the old ones
and the normal forms of their names. -/
def map (replace : String → Operator m → Operator n) (table : OperatorTable m) :
    OperatorTable n where
  entries := table.entries.map fun key entry => ⟨entry.kind, replace key entry.operator⟩
  named key entry found := by
    rw [Std.TreeMap.getElem?_map, Option.map_eq_some_iff] at found
    rcases found with ⟨old, found, rfl⟩
    exact table.named key old found

variable (replace : String → Operator m → Operator n) (table : OperatorTable m)

theorem ofKind?_map (kind : Operator.Kind) (key : String) :
    (table.map replace).ofKind? kind key =
      (table.ofKind? kind key).map (replace key) := by
  rw [ofKind?, ofKind?, map, Std.TreeMap.getElem?_map]
  cases table.entries[key]? with
  | none => rfl
  | some entry => by_cases same : entry.kind = kind <;> simp [Option.filter, same]

theorem symbol?_map (symbol : List Char) :
    (table.map replace).symbol? symbol =
      (table.symbol? symbol).map (replace (String.ofList symbol)) :=
  table.ofKind?_map replace .symbol (String.ofList symbol)

theorem keyword?_map (words : List (List Char)) :
    (table.map replace).keyword? words =
      (table.keyword? words).map (replace (Operator.joinKeywords words)) :=
  table.ofKind?_map replace .keyword (Operator.joinKeywords words)

theorem keywordNames_map : (table.map replace).keywordNames = table.keywordNames := by
  rw [keywordNames, keywordNames, map, Std.TreeMap.toList_map, List.filter_map,
    List.map_map]
  rfl

theorem beginsKeyword_map (word : List Char) :
    (table.map replace).beginsKeyword word = table.beginsKeyword word := by
  rw [beginsKeyword, beginsKeyword, keywordNames_map]

end OperatorTable

def FunctionTable.map (replace : String → ValueFunction m → ValueFunction n)
    (table : FunctionTable m) : FunctionTable n :=
  ⟨table.entries.map replace⟩

theorem FunctionTable.get?_map (replace : String → ValueFunction m → ValueFunction n)
    (table : FunctionTable m) (name : String) :
    (table.map replace).get? name =
      (table.get? name).map (replace (ValueFunction.normalize name)) := by
  rw [get?, get?, map, Std.TreeMap.getElem?_map]

/-! ## Conditions -/

namespace Condition

variable {operators : OperatorTable m} (replace : String → Operator m → Operator n)

theorem isReserved_map (word : List Char) :
    isReserved (operators.map replace) word = isReserved operators word := by
  simp only [isReserved, OperatorTable.beginsKeyword_map, OperatorTable.symbol?_map,
    Option.isSome_map]

theorem literal?_map (text : List Char) :
    literal? (operators.map replace) text = literal? operators text := by
  have reserved : isReserved (operators.map replace) = isReserved operators :=
    funext (isReserved_map replace)
  simp only [literal?, reserved]

theorem Chooses.key_eq {operator : Operator m} {whole text after : List Char}
    (chooses : Chooses operators whole text operator after) :
    Operator.normalize (String.ofList text) =
      if whole.head?.any isSymbolCharacter then String.ofList text
      else Operator.joinKeywords (Text.words text) := by
  cases chooses with
  | symbol isSymbol nonempty =>
      have symbolic : Operator.isSymbol text = true :=
        Operator.isSymbol_iff.mpr ⟨nonempty, isSymbol⟩
      have starts : (text ++ after).head?.any isSymbolCharacter = true := by
        rw [List.head?_append_of_ne_nil _ nonempty, List.head?_eq_some_head nonempty]
        exact isSymbol _ (List.head_mem nonempty)
      rw [if_pos starts,
        Operator.normalize_of_symbol (Operator.kind_of_isSymbol symbolic),
        String.toList_ofList, (Operator.isTrimmed_of_isSymbol symbolic).trim_eq]
  | keyword noSymbol isLongest =>
      have kind := Operator.kind_of_noSymbol isLongest.leads.trimmed
        (isLongest.leads.equal ▸ noSymbol)
      rw [if_neg (by simp [noSymbol]), Operator.normalize_of_keyword kind,
        String.toList_ofList]

section Operator

variable {whole text after : List Char}

theorem Chooses.map {operator : Operator m}
    (chooses : Chooses operators whole text operator after) :
    Chooses (operators.map replace) whole text
      (replace (Operator.normalize (String.ofList text)) operator) after := by
  have key := chooses.key_eq
  cases chooses with
  | symbol isSymbol nonempty stops found =>
      have starts : (text ++ after).head?.any isSymbolCharacter = true := by
        rw [List.head?_append_of_ne_nil _ nonempty, List.head?_eq_some_head nonempty]
        exact isSymbol _ (List.head_mem nonempty)
      rw [if_pos starts] at key
      refine .symbol isSymbol nonempty stops ?_
      rw [OperatorTable.symbol?_map, found, key, Option.map_some]
  | keyword noSymbol isLongest =>
      rw [if_neg (by simp [noSymbol])] at key
      refine .keyword noSymbol ⟨isLongest.leads, ?_, fun count more within => ?_⟩
      · rw [OperatorTable.keyword?_map, isLongest.found, key, Option.map_some]
      · rw [OperatorTable.keyword?_map, isLongest.longest count more within,
          Option.map_none]

theorem Chooses.exists_of_map {operator : Operator n}
    (chooses : Chooses (operators.map replace) whole text operator after) :
    ∃ old, Chooses operators whole text old after := by
  cases chooses with
  | symbol isSymbol nonempty stops found =>
      rw [OperatorTable.symbol?_map, Option.map_eq_some_iff] at found
      rcases found with ⟨old, found, _⟩
      exact ⟨old, .symbol isSymbol nonempty stops found⟩
  | keyword noSymbol isLongest =>
      have found := isLongest.found
      rw [OperatorTable.keyword?_map, Option.map_eq_some_iff] at found
      rcases found with ⟨old, found, _⟩
      refine ⟨old,
        .keyword noSymbol ⟨isLongest.leads, found, fun count more within => ?_⟩⟩
      have none := isLongest.longest count more within
      rwa [OperatorTable.keyword?_map, Option.map_eq_none_iff] at none

theorem operator?_map (solid : ∀ character ∈ whole.head?, isBlank character = false) :
    operator? (operators.map replace) whole =
      (operator? operators whole).map fun (text, operator, after) =>
        (text, replace (Operator.normalize (String.ofList text)) operator, after) := by
  cases found : operator? operators whole with
  | some read =>
      rcases read with ⟨text, operator, after⟩
      have chooses := (operator?_eq_some_iff solid).mp found
      exact (operator?_eq_some_iff solid).mpr (chooses.map replace)
  | none =>
      rw [Option.map_none, Option.eq_none_iff_forall_ne_some]
      rintro ⟨text, operator, after⟩ found'
      rcases ((operator?_eq_some_iff solid).mp found').exists_of_map with ⟨old, chooses⟩
      rw [(operator?_eq_some_iff solid).mpr chooses] at found
      cases found

end Operator

def Parts.map (parts : Parts m) : Parts n :=
  { parts with
    operator :=
      replace (Operator.normalize (String.ofList parts.operatorText)) parts.operator }

theorem parts?_map (text : List Char) :
    parts? (operators.map replace) text = (parts? operators text).map
      (Parts.map replace) := by
  simp only [parts?, Option.bind_eq_bind]
  cases Subject.read? text with
  | none => rfl
  | some read =>
      rcases read with ⟨subject, subjectText, afterSubject⟩
      rcases Text.exists_trimStart afterSubject with ⟨_, _, _, solid⟩
      simp only [Option.bind_some, operator?_map replace solid]
      cases operator? operators (Text.trimStart afterSubject) with
      | none => rfl
      | some found =>
          rcases found with ⟨operatorText, operator, afterOperator⟩
          simp only [Option.map_some, Option.bind_some, literal?_map]
          cases literal? operators (Text.trim afterOperator) <;> rfl

end Condition

end Criteria
