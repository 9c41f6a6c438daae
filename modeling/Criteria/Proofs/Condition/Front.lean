import Criteria.Proofs.Condition.Decomposition
import Criteria.Proofs.Condition.Written

/-!
The front of a condition: its subject and its operator, and what may follow them.

What follows can be anything that does not lengthen the operator: no symbol character
next to a symbol, and no words next to keywords that spell a longer name with them. Then
the condition has this subject and this operator, and it has a literal exactly if the
rest of it is one.
-/

namespace Criteria

open Text (words)

/-! ## Words with gaps between them -/

theorem Spaced.isTrimmed {words : List (List Char)} {text : List Char}
    (spaced : Spaced words text) : Text.IsTrimmed text := by
  induction spaced with
  | single nonempty solid => exact Text.isTrimmed_of_solid nonempty solid
  | cons nonempty solid _ _ _ induction =>
      exact (Text.isTrimmed_of_solid nonempty solid).append induction _

theorem Spaced.ne_nil {words : List (List Char)} {text : List Char}
    (spaced : Spaced words text) :
    words ≠ [] := by
  cases spaced <;> exact List.cons_ne_nil _ _

theorem Spaced.words_eq {words : List (List Char)} {text : List Char}
    (spaced : Spaced words text) : Text.words text = words := by
  induction spaced with
  | single nonempty solid => exact Text.words_of_solid nonempty solid
  | cons nonempty solid blank apart _ induction =>
      rw [Text.words_append blank apart, Text.words_of_solid nonempty solid, induction]
      rfl

variable {m : Type → Type} {operators : OperatorTable m} {operator : Operator m}

namespace Condition

/-! ## The choice of an operator -/

section Choice

variable {whole text after after' : List Char}

theorem Chooses.isTrimmed (chooses : Chooses operators whole text operator after) :
    Text.IsTrimmed text := by
  cases chooses with
  | symbol isSymbol nonempty =>
      exact Text.isTrimmed_of_solid nonempty fun character member =>
        (isPlain_of_isSymbolCharacter (isSymbol character member)).solid
  | keyword _ isLongest => exact isLongest.leads.trimmed

/-- An operator is chosen before another text too if neither a symbol character nor a
word next to it makes a longer name there. -/
theorem Chooses.exchange (chooses : Chooses operators whole text operator after)
    (noSymbol : ∀ next ∈ after'.head?, isSymbolCharacter next = false)
    (stops : (∀ next ∈ after.head?, isBlank next = true) → ∀ next ∈ after'.head?,
      isBlank next = true)
    (noLonger : ∀ more, more <+: words after' → more <+: words after ∨
      operators.keyword? (words text ++ more) = none) :
    Chooses operators (text ++ after') text operator after' := by
  cases chooses with
  | symbol isSymbol nonempty _ found => exact .symbol isSymbol nonempty noSymbol found
  | keyword noSymbol' isLongest =>
      have nonempty := isLongest.leads.trimmed.nonempty
      have leads : Text.Leads text after' (text ++ after') :=
        ⟨rfl, isLongest.leads.trimmed, stops isLongest.leads.stops⟩
      rw [isLongest.leads.equal, List.head?_append_of_ne_nil _ nonempty] at noSymbol'
      refine .keyword ?_ ⟨leads, isLongest.found, fun count more within => ?_⟩
      · rwa [List.head?_append_of_ne_nil _ nonempty]
      -- So many words are those of the name and some that follow it.
      rcases Nat.exists_eq_add_of_lt more with ⟨extra, rfl⟩
      rw [leads.words_eq, Nat.add_assoc, List.take_length_add_append]
      rw [leads.words_eq, List.length_append] at within
      rcases noLonger _ (List.take_prefix (extra + 1) (words after')) with same | none
      · have size : ((words after').take (extra + 1)).length = extra + 1 :=
          List.length_take_of_le (by omega)
        have isTake := List.prefix_iff_eq_take.mp same
        have bound := same.length_le
        have none := isLongest.longest ((words text).length + (extra + 1)) (by omega) (by
          rw [isLongest.leads.words_eq, List.length_append]
          omega)
        rw [isLongest.leads.words_eq, List.take_length_add_append] at none
        rw [isTake, size]
        exact none
      · exact none

theorem Chooses.noSymbol_after (chooses : Chooses operators whole text operator after) :
    ∀ next ∈ after.head?, isSymbolCharacter next = false := by
  cases chooses with
  | symbol _ _ stops => exact stops
  | keyword _ isLongest =>
      exact fun next isHead =>
        isSymbolCharacter_of_isBlank (isLongest.leads.stops next isHead)

theorem Chooses.trimEnd (chooses : Chooses operators whole text operator after) :
    Chooses operators (text ++ Text.trimEnd after) text operator
      (Text.trimEnd after) := by
  have sameHead : ∀ next ∈ (Text.trimEnd after).head?, next ∈ after.head? := by
    rcases Text.exists_trimEnd after with ⟨gap, equal, _⟩
    intro next isHead
    rw [equal]
    exact List.mem_head?_append_of_mem_head? isHead
  refine chooses.exchange (fun next isHead => ?_)
    (fun stops next isHead => ?_) fun more => ?_
  · exact chooses.noSymbol_after next (sameHead next isHead)
  · exact stops next (sameHead next isHead)
  · rw [Text.words_trimEnd]
    exact .inl

end Choice

/-! ## Conditions about a path -/

variable {gap text after : List Char}

theorem parts?_of_chooses (subject : Subject.Name) (blank : Text.allBlank gap = true)
    (ends : ∀ rest, Subject.EndsPath (gap ++ (text ++ rest)))
    (chooses : Chooses operators (text ++ after) text operator after) :
    parts? operators (Text.trim (subject.text ++ gap ++ text ++ after)) =
      (literal? operators (Text.trim after)).map fun literal =>
        ⟨.path subject.text, subject.text, text, Text.trim after, operator, literal⟩ := by
  have front := subject.isTrimmed.append chooses.isTrimmed gap
  have shorter := chooses.trimEnd
  have reads := (Topic.path subject).reads (ends (Text.trimEnd after))
  have found := (operator?_eq_some_iff shorter.solid).mpr shorter
  rw [← Text.trimStart_append blank shorter.solid] at found
  rw [front.trim_append, List.append_assoc, List.append_assoc]
  have parts := parts?_eq_map reads found
  rwa [Text.trim_trimEnd] at parts

theorem evaluate_eq_ok_iff {vocabulary : Vocabulary Id} {operator : Operator Id}
    (subject : Subject.Name) (blank : Text.allBlank gap = true)
    (ends : ∀ rest, Subject.EndsPath (gap ++ (text ++ rest)))
    (chooses : Chooses vocabulary.operators (text ++ after) text operator after)
    (context : Context) (truth : Bool) :
    evaluate vocabulary context (String.ofList (subject.text ++ gap ++ text ++ after)) =
        .ok truth ↔
      ∃ path literal, Path.read? subject.text = some path ∧
        literal? vocabulary.operators (Text.trim after) = some literal ∧
        operator {
          value := context.object.follow? path
          literal := String.ofList literal
          tokens := [subject.text, text, Text.trim after].map String.ofList
          context } = .ok truth := by
  have parts := parts?_of_chooses subject blank ends chooses
  rw [evaluate, String.toList_ofList]
  simp only [parts]
  cases isLiteral : literal? vocabulary.operators (Text.trim after) with
  | none =>
      simp only [Option.map_none]
      constructor
      · intro decided
        cases decided
      · rintro ⟨_, _, _, ⟨⟩, _⟩
  | some literal =>
      simp only [Option.map_some, subjectValue]
      cases isPath : Path.read? subject.text with
      | none =>
          constructor
          · intro decided
            cases decided
          · rintro ⟨_, _, ⟨⟩, _⟩
      | some path =>
          constructor
          · exact fun decided => ⟨path, literal, rfl, rfl, decided⟩
          · rintro ⟨_, _, ⟨⟩, ⟨⟩, decided⟩
            exact decided

end Condition

/-! ## Names of operators -/

namespace Operator.Spelled

variable {name : String} {gap text gap' rest : List Char}

theorem chooses (spelled : Spelled name gap text gap')
    (found : operators.get? name = some operator)
    (noSymbol : ∀ next ∈ (gap' ++ rest).head?, isSymbolCharacter next = false)
    (noLonger : kind name = .keyword → ∀ more, more ≠ [] → more <+: words rest →
      operators.keyword? (words text ++ more) = none) :
    Condition.Chooses operators (text ++ (gap' ++ rest)) text operator
      (gap' ++ rest) := by
  cases spelled with
  | symbol isSymbol blank blank' =>
      rw [operators.get?_of_symbol isSymbol] at found
      rcases OperatorTable.symbol_of_symbol? found with ⟨nonempty, all⟩
      exact .symbol all nonempty noSymbol found
  | keyword isKeyword spaced caseless starts blank apart blank' apart' =>
      have found := operators.keyword?_of_get? isKeyword caseless found
      have leads : Text.Leads text (gap' ++ rest) (text ++ (gap' ++ rest)) :=
        ⟨rfl, spaced.isTrimmed, Term.isBlank_of_head_gap blank' apart'⟩
      rw [← spaced.words_eq] at found
      refine .keyword ?_ ⟨leads, found, fun count more within => ?_⟩
      · rcases spaced.exists_head with ⟨first, others, rfl, _⟩
        exact (starts first rfl).1
      · rcases Nat.exists_eq_add_of_lt more with ⟨extra, rfl⟩
        rw [leads.words_eq, Text.words_gap_append blank', List.length_append] at within
        rw [leads.words_eq, Text.words_gap_append blank', Nat.add_assoc,
          List.take_length_add_append]
        refine noLonger isKeyword _ ?_ (List.take_prefix _ _)
        rw [ne_eq, List.take_eq_nil_iff, not_or, ← List.length_eq_zero_iff]
        omega

end Operator.Spelled

end Criteria
