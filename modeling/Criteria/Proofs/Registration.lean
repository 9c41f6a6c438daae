import Mathlib.Data.List.Dedup
import Mathlib.Data.List.Induction
import Criteria.Function
import Criteria.Operator.Standard
import Criteria.Proofs.Operator.Table

/-!
Tables as maps from names to what was added last.

Two names are the same name if they have the same normal form. A table that operators or
functions were added to holds the last of each name; the earlier ones have no part in
anything that can be asked of it.
-/

namespace Criteria

/-! ## The last registration of a name -/

section Latest

variable {α β : Type}

/-- The map holds, by the normal forms of their names, the entries of the last
registrations. -/
def HoldsLatest (normalize : String → String) (entry : String × α → β)
    (registrations : List (String × α)) (entries : Std.TreeMap String β compare) : Prop :=
  ∀ key : String, entries[key]? =
    (registrations.reverse.find? fun registration =>
      normalize registration.1 = key).map entry

variable {normalize : String → String} {entry : String × α → β}
  {registrations : List (String × α)} {entries : Std.TreeMap String β compare}

theorem holdsLatest_nil : HoldsLatest normalize entry [] ∅ := by
  intro key
  simp

theorem HoldsLatest.append_singleton
    (latest : HoldsLatest normalize entry registrations entries)
    (registration : String × α) :
    HoldsLatest normalize entry (registrations ++ [registration])
      (entries.insert (normalize registration.1) (entry registration)) := by
  intro key
  rw [Std.TreeMap.getElem?_insert, List.reverse_append, List.reverse_singleton,
    List.singleton_append, List.find?_cons]
  by_cases same : normalize registration.1 = key
  · simp [same]
  · simp [same, latest key]

theorem holdsLatest_foldl {τ : Type} (entriesOf : τ → Std.TreeMap String β compare)
    {empty : τ} {insert : τ → String × α → τ} (isEmpty : entriesOf empty = ∅)
    (inserted : ∀ table registration, entriesOf (insert table registration) =
      (entriesOf table).insert (normalize registration.1) (entry registration))
    (registrations : List (String × α)) :
    HoldsLatest normalize entry registrations
      (entriesOf (registrations.foldl insert empty)) := by
  induction registrations using List.reverseRecOn with
  | nil =>
      rw [List.foldl_nil, isEmpty]
      exact holdsLatest_nil
  | append_singleton earlier last induction =>
      rw [List.foldl_concat, inserted]
      exact induction.append_singleton last

theorem HoldsLatest.isSome_iff
    (latest : HoldsLatest normalize entry registrations entries) {key : String} :
    entries[key]?.isSome = true ↔
      ∃ registration ∈ registrations, normalize registration.1 = key := by
  rw [latest key, Option.isSome_map, List.find?_isSome]
  simp

theorem HoldsLatest.mem_keys (latest : HoldsLatest normalize entry registrations entries)
    {key : String} : key ∈ entries.keys ↔
      ∃ registration ∈ registrations, normalize registration.1 = key := by
  rw [Std.TreeMap.mem_keys, Std.TreeMap.mem_iff_isSome_getElem?, latest.isSome_iff]

theorem HoldsLatest.size_eq (latest : HoldsLatest normalize entry registrations entries) :
    entries.size = (registrations.map (normalize ·.1)).dedup.length := by
  rw [← Std.TreeMap.length_keys]
  -- Neither list holds anything twice, and they have the same members.
  apply List.Perm.length_eq
  apply (List.perm_ext_iff_of_nodup Std.TreeMap.nodup_keys (List.nodup_dedup _)).mpr
  intro key
  rw [latest.mem_keys, List.mem_dedup, List.mem_map]

/-- What can be asked of a table by names, after registrations. -/
structure LastWins (normalize : String → String) (registrations : List (String × α))
    (get? : String → Option α) (contains : String → Bool) (size : Nat)
    (names : List String) :
    Prop where
  get?_eq : ∀ name, get? name = (registrations.reverse.find? fun registration =>
    normalize registration.1 = normalize name).map Prod.snd
  contains_eq : ∀ name, contains name = (get? name).isSome
  size_eq : size = (registrations.map (normalize ·.1)).dedup.length
  mem_names_iff : ∀ key, key ∈ names ↔
    ∃ registration ∈ registrations, normalize registration.1 = key
  names_ordered : names.Pairwise (· < ·)

theorem HoldsLatest.lastWins (latest : HoldsLatest normalize entry registrations entries)
    {get? : String → Option α} (found : ∀ name, get? name =
      (registrations.reverse.find? fun registration =>
        normalize registration.1 = normalize name).map Prod.snd) :
    LastWins normalize registrations get? (fun name => (get? name).isSome) entries.size
      entries.keys where
  get?_eq := found
  contains_eq _ := rfl
  size_eq := latest.size_eq
  mem_names_iff _ := latest.mem_keys
  names_ordered := by
    apply Std.TreeMap.ordered_keys.imp
    intro left right ordered
    exact compareOfLessAndEq_eq_lt.mp ordered

end Latest

/-! ## Functions -/

variable {m : Type → Type}

namespace FunctionTable

variable (registrations : List (String × ValueFunction m))

def ofList : FunctionTable m :=
  registrations.foldl
    (fun table registration => table.insert registration.1 registration.2) empty

theorem holdsLatest_ofList :
    HoldsLatest ValueFunction.normalize Prod.snd registrations
      (ofList registrations).entries :=
  holdsLatest_foldl FunctionTable.entries rfl (fun _ _ => rfl) registrations

end FunctionTable

/-! ## Operators -/

namespace OperatorTable

variable (registrations : List (String × Operator m))

def ofList : OperatorTable m :=
  registrations.foldl
    (fun table registration => table.insert registration.1 registration.2) empty

def entryOf (registration : String × Operator m) : Operator.Entry m :=
  ⟨Operator.kind registration.1, registration.2⟩

theorem holdsLatest_ofList :
    HoldsLatest Operator.normalize entryOf registrations
      (ofList registrations).entries :=
  holdsLatest_foldl OperatorTable.entries rfl (fun _ _ => rfl) registrations

variable {registrations}

theorem mem_keywordNames_ofList {key : String} :
    key ∈ (ofList registrations).keywordNames ↔ ∃ registration ∈ registrations,
      Operator.kind registration.1 = .keyword ∧
      Operator.normalize registration.1 = key := by
  rw [mem_keywordNames_iff]
  constructor
  · rintro ⟨entry, found, isKeyword⟩
    rw [holdsLatest_ofList, Option.map_eq_some_iff] at found
    rcases found with ⟨registration, isLast, rfl⟩
    have member := List.mem_reverse.mp (List.mem_of_find?_eq_some isLast)
    exact ⟨registration, member, isKeyword, by simpa using List.find?_some isLast⟩
  · rintro ⟨registration, member, isKeyword, rfl⟩
    have isSome :=
      (holdsLatest_ofList registrations).isSome_iff.mpr ⟨registration, member, rfl⟩
    rcases Option.isSome_iff_exists.mp isSome with ⟨entry, found⟩
    exact ⟨entry, found, (kind_eq_of_getElem? found).trans isKeyword⟩

theorem longestKeyword_ofList :
    (ofList registrations).longestKeyword =
      ((registrations.filter (Operator.kind ·.1 = .keyword)).map fun registration =>
        max 1 (Text.words registration.1.toList).length).max?.getD 0 := by
  apply eq_of_forall_ge_iff
  intro bound
  rw [longestKeyword_le_iff, getD_max?_le_iff, List.forall_mem_map]
  constructor
  · intro fits registration member
    rw [List.mem_filter, decide_eq_true_eq] at member
    rw [← Operator.length_keywords_normalize member.2]
    exact fits _ (mem_keywordNames_ofList.mpr ⟨registration, member.1, member.2, rfl⟩)
  · intro fits key member
    rcases mem_keywordNames_ofList.mp member with ⟨registration, isMember, isKeyword, rfl⟩
    rw [Operator.length_keywords_normalize isKeyword]
    exact fits registration (List.mem_filter.mpr ⟨isMember, decide_eq_true isKeyword⟩)

theorem head?_keywords_normalize {name : String} {word : List Char}
    (isKeyword : Operator.kind name = .keyword) (nonempty : word ≠ []) :
    (Operator.keywords (Operator.normalize name)).head?.any (Text.caseless word) =
      (Text.words name.toList).head?.any (Text.caseless word) := by
  rw [Operator.normalize_of_keyword isKeyword]
  cases words : Text.words name.toList with
  | nil =>
      cases word with
      | nil => exact absurd rfl nonempty
      | cons character rest => rfl
  | cons first others =>
      have solid : ∀ character ∈ first, isBlank character = false :=
        Text.solid_of_mem_words (words ▸ List.mem_cons_self)
      rw [Operator.head?_keywords_joinKeywords solid, List.head?_cons, Option.any_some,
        Option.any_some, Bool.eq_iff_iff, Text.caseless_iff, Text.caseless_iff,
        Text.upper_upper]

theorem beginsKeyword_ofList {word : List Char} (nonempty : word ≠ []) :
    (ofList registrations).beginsKeyword word = true ↔
      ∃ registration ∈ registrations, Operator.kind registration.1 = .keyword ∧
        ∃ first ∈ (Text.words registration.1.toList).head?,
          Text.caseless word first = true := by
  rw [beginsKeyword, List.any_eq_true]
  constructor
  · rintro ⟨key, member, begins⟩
    rcases mem_keywordNames_ofList.mp member with ⟨registration, isMember, isKeyword, rfl⟩
    rw [head?_keywords_normalize isKeyword nonempty, Option.any_eq_true] at begins
    exact ⟨registration, isMember, isKeyword, begins⟩
  · rintro ⟨registration, member, isKeyword, begins⟩
    refine ⟨_, mem_keywordNames_ofList.mpr ⟨registration, member, isKeyword, rfl⟩, ?_⟩
    rw [head?_keywords_normalize isKeyword nonempty, Option.any_eq_true]
    exact begins

theorem get?_eq_symbol?_or_keyword? (table : OperatorTable m) (name : String) :
    table.get? name =
      if Operator.isSymbol (Text.trim name.toList) then
        table.symbol? (Text.trim name.toList)
      else table.keyword? (Text.words name.toList) := by
  cases isKind : Operator.kind name with
  | symbol => rw [if_pos (Operator.kind_eq_symbol_iff.mp isKind), get?_of_symbol isKind]
  | keyword =>
      rw [if_neg (by simp [Operator.kind_eq_keyword_iff.mp isKind]),
        get?_of_keyword isKind]

end OperatorTable

/-- Registrations make a table a map from names to what was registered last. The name of
a function counts without the blanks around it and without letter case. So does that of
an operator, if it is no symbol, and any gap between its words is one blank. -/
theorem tables_last_wins (operators : List (String × Operator m))
    (functions : List (String × ValueFunction m)) :
    let operatorKey (name : String) :=
      if Operator.isSymbol (Text.trim name.toList) then
        String.ofList (Text.trim name.toList)
      else String.ofList
        (Text.joinWords ((Text.words name.toList).map fun word => word.map Char.toUpper))
    let functionKey (name : String) :=
      String.ofList ((Text.trim name.toList).map Char.toUpper)
    let operatorTable := OperatorTable.ofList operators
    let functionTable := FunctionTable.ofList functions
    LastWins operatorKey operators operatorTable.get? operatorTable.contains
      operatorTable.size operatorTable.names ∧
    (operatorTable.longestKeyword =
      ((operators.filter (Operator.kind ·.1 = .keyword)).map fun registration =>
        max 1 (Text.words registration.1.toList).length).max?.getD 0) ∧
    (∀ word, word ≠ [] → (operatorTable.beginsKeyword word = true ↔
      ∃ registration ∈ operators, Operator.kind registration.1 = .keyword ∧
        ∃ first ∈ (Text.words registration.1.toList).head?,
          Text.caseless word first = true)) ∧
    (∀ name, operatorTable.get? name =
      if Operator.isSymbol (Text.trim name.toList) then
        operatorTable.symbol? (Text.trim name.toList)
      else operatorTable.keyword? (Text.words name.toList)) ∧
    (∀ text, operatorTable.symbol? text = none ∨ operatorTable.keyword? [text] = none) ∧
    LastWins functionKey functions functionTable.get? functionTable.contains
      functionTable.size functionTable.names := by
  intro operatorKey functionKey operatorTable functionTable
  have sameKey : Operator.normalize = operatorKey := by
    funext name
    cases isKind : Operator.kind name with
    | symbol =>
        rw [Operator.normalize_of_symbol isKind]
        exact (if_pos (Operator.kind_eq_symbol_iff.mp isKind)).symm
    | keyword =>
        rw [Operator.normalize_of_keyword isKind]
        exact (if_neg (by simp [Operator.kind_eq_keyword_iff.mp isKind])).symm
  rw [← sameKey]
  refine ⟨(OperatorTable.holdsLatest_ofList operators).lastWins ?_,
    OperatorTable.longestKeyword_ofList, fun _ => OperatorTable.beginsKeyword_ofList,
    operatorTable.get?_eq_symbol?_or_keyword?, ?_,
    (FunctionTable.holdsLatest_ofList functions).lastWins ?_⟩
  · intro name
    rw [OperatorTable.get?, OperatorTable.holdsLatest_ofList, Option.map_map]
    rfl
  · intro text
    cases found : operatorTable.symbol? text with
    | none => exact .inl rfl
    | some operator => exact .inr (OperatorTable.keyword?_eq_none_of_symbol? found)
  · intro name
    exact FunctionTable.holdsLatest_ofList functions _

open Operator in
/-- `in` is registered twice, and so is no other name: `>=` is a symbol, and `> =` two
keywords. Of two functions one is registered twice. -/
theorem tables_last_wins_of_same_names :
    let operators : List (String × Operator Id) :=
      [("in", isIn false), (" >= ", equals true),
      ("not\tin", isIn true), ("> =", equals false), (" ", is true), ("IN ", is false)]
    let functions : List (String × ValueFunction Id) := [("LEN", ValueFunction.length),
      (" first\t", fun _ => pure .null), ("len ", fun _ => pure (.bool true))]
    let table := OperatorTable.ofList operators
    let functionTable := FunctionTable.ofList functions
    table.get? " in" = some (is false) ∧ table.size = 5 ∧ table.longestKeyword = 2 ∧
      table.beginsKeyword "Not".toList = true ∧
      table.get? " >= " = table.symbol? ">=".toList ∧
      table.get? "> \t=" = table.keyword? [">".toList, "=".toList] ∧
      functionTable.get? "Len" = some (fun _ => pure (.bool true)) ∧
      functionTable.get? "FIRST" = some (fun _ => pure .null) ∧
      functionTable.get? "fir st" = none ∧ functionTable.size = 2 ∧
      "FIRST" ∈ functionTable.names := by
  intro operators functions table functionTable
  rcases tables_last_wins operators functions with
    ⟨wins, longest, begins, found, _, functionsWin⟩
  refine ⟨(wins.get?_eq " in").trans rfl, wins.size_eq.trans ?_, longest.trans ?_, ?_,
    found " >= ", found "> \t=", (functionsWin.get?_eq "Len").trans rfl,
    (functionsWin.get?_eq "FIRST").trans rfl, (functionsWin.get?_eq "fir st").trans rfl,
    functionsWin.size_eq.trans ?_, (functionsWin.mem_names_iff "FIRST").mpr ?_⟩
  · decide +kernel
  · decide +kernel
  · refine (begins _ (by decide)).mpr ⟨("not\tin", isIn true), by simp [operators], ?_,
      "not".toList, ?_, ?_⟩ <;> decide +kernel
  · decide +kernel
  · exact ⟨(" first\t", fun _ => pure .null), by simp [functions], by decide +kernel⟩

end Criteria
