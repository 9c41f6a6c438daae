import Criteria.Proofs.Condition.Choice
import Criteria.Proofs.Condition.Subject
import Criteria.Condition.Evaluate
import Criteria.Operator.Standard

/-!
Conditions and their parts.

A condition that is taken apart is its subject, its operator and its literal, with
nothing but blanks between them, so none of its text is lost. The subject and then the
operator are fixed by what stands at the start; if the rest is no literal, there is no
other choice to fall back on.
-/

namespace Criteria

variable {m : Type → Type}

namespace Condition

open Text (IsTrimmed)

/-! ## All parts -/

theorem Chooses.solid {operators : OperatorTable m} {operator : Operator m}
    {whole text after : List Char}
    (chooses : Chooses operators whole text operator after) :
    ∀ first ∈ whole.head?, isBlank first = false := by
  intro first isHead
  cases chooses with
  | symbol isSymbol nonempty =>
      rw [List.head?_append_of_ne_nil _ nonempty] at isHead
      exact (isPlain_of_isSymbolCharacter
        (isSymbol first (List.mem_of_mem_head? isHead))).solid
  | keyword _ isLongest =>
      rw [isLongest.leads.equal,
        List.head?_append_of_ne_nil _ isLongest.leads.trimmed.nonempty] at isHead
      exact isLongest.leads.trimmed.head first isHead

/-- The parts make up the text, with gaps between them. -/
def Decomposes (operators : OperatorTable m) (text : List Char) (parts : Parts m) :
    Prop :=
  ∃ gap gap', Text.allBlank gap = true ∧ Text.allBlank gap' = true ∧
    text = parts.subjectText ++ gap ++ parts.operatorText ++ gap' ++ parts.literalText ∧
    IsTrimmed parts.literalText ∧
    Subject.Reads text parts.subject parts.subjectText
      (gap ++ (parts.operatorText ++ (gap' ++ parts.literalText))) ∧
    Chooses operators (parts.operatorText ++ (gap' ++ parts.literalText))
      parts.operatorText parts.operator (gap' ++ parts.literalText) ∧
    literal? operators parts.literalText = some parts.literal

theorem decomposes_of_parts? {operators : OperatorTable m} {text : List Char}
    {parts : Parts m} (trimmed : IsTrimmed text)
    (found : parts? operators text = some parts) :
    Decomposes operators text parts := by
  rcases finds_of_parts? found with
    @⟨_, _, _, afterSubject, _, afterOperator, _, isSubject, isOperator, isLiteral⟩
  have reads := Subject.read?_eq_some_iff.mp isSubject
  rcases Text.exists_trimStart afterSubject with ⟨gap, subjectEq, blank, solid⟩
  rcases Text.exists_trimStart afterOperator with ⟨gap', operatorEq, blank', solid'⟩
  have chooses := (operator?_eq_some_iff solid).mp isOperator
  have nonempty : Text.trim afterOperator ≠ [] := by
    intro none
    rw [none] at isLiteral
    cases isLiteral
  have filled : Text.trimStart afterOperator ≠ [] := by
    intro none
    rw [Text.trim, none] at nonempty
    exact nonempty rfl
  -- The end of the text is the end of the literal, so there are no blanks behind that.
  have sameEnd : Text.trim afterOperator = Text.trimStart afterOperator := by
    have whole := @Text.trimEnd_append (Text.trimStart afterOperator) [] List.all_nil
    rw [List.append_nil] at whole
    refine whole fun character isLast => trimmed.last character ?_
    rw [reads.equal, subjectEq, chooses.equal, operatorEq, ← List.append_assoc,
      ← List.append_assoc, ← List.append_assoc, List.getLast?_append_of_ne_nil _ filled]
    exact isLast
  have split : afterOperator = gap' ++ Text.trim afterOperator := sameEnd ▸ operatorEq
  rw [subjectEq, chooses.equal, split] at reads
  rw [chooses.equal, split] at chooses
  exact ⟨gap, gap', blank, blank', by simpa using reads.equal,
    Text.isTrimmed_trim nonempty, reads, chooses, isLiteral⟩

theorem parts?_eq_map {operators : OperatorTable m} {operator : Operator m}
    {text subjectText after operatorText afterOperator : List Char} {subject : Subject}
    (reads : Subject.Reads text subject subjectText after)
    (found : operator? operators (Text.trimStart after) =
      some (operatorText, operator, afterOperator)) :
    parts? operators text =
      (literal? operators (Text.trim afterOperator)).map fun literal =>
        ⟨subject, subjectText, operatorText, Text.trim afterOperator, operator,
          literal⟩ := by
  rw [parts?, reads.read?_eq]
  simp only [Option.bind_eq_bind, Option.bind_some, found]
  cases literal? operators (Text.trim afterOperator) <;> rfl

section Decomposed

variable {operators : OperatorTable m} {text : List Char} {parts : Parts m}

theorem Decomposes.isTrimmed (decomposes : Decomposes operators text parts) :
    IsTrimmed parts.literalText := by
  rcases decomposes with ⟨_, _, _, _, _, trimmed, _⟩
  exact trimmed

theorem Decomposes.isLiteral (decomposes : Decomposes operators text parts) :
    literal? operators parts.literalText = some parts.literal := by
  rcases decomposes with ⟨_, _, _, _, _, _, _, _, isLiteral⟩
  exact isLiteral

theorem Decomposes.exists_rest (decomposes : Decomposes operators text parts) :
    ∃ gap whole after, Text.allBlank gap = true ∧
      text = parts.subjectText ++ (gap ++ whole) ∧
      Chooses operators whole parts.operatorText parts.operator after ∧
      Text.trim after = parts.literalText ∧
      ∀ (operators' : OperatorTable m) text' operator after',
        Chooses operators' whole text' operator after' →
        parts? operators' text =
          (literal? operators' (Text.trim after')).map fun literal =>
          ⟨parts.subject, parts.subjectText, text', Text.trim after', operator,
            literal⟩ := by
  rcases decomposes with ⟨gap, gap', blank, blank', _, trimmed, reads, chooses, _⟩
  have isRest := Text.trim_eq blank' List.all_nil trimmed
  rw [List.append_nil] at isRest
  refine ⟨gap, _, _, blank, reads.equal, chooses, isRest,
    fun operators' _ _ _ chooses' => ?_⟩
  have found := (operator?_eq_some_iff chooses.solid).mpr chooses'
  rw [← Text.trimStart_append blank chooses.solid] at found
  exact parts?_eq_map reads found

theorem Decomposes.parts?_eq (decomposes : Decomposes operators text parts) :
    parts? operators text = some parts := by
  rcases decomposes.exists_rest with ⟨_, _, _, _, _, chooses, isRest, partsOf⟩
  rw [partsOf _ _ _ _ chooses, isRest, decomposes.isLiteral, Option.map_some]

end Decomposed

theorem parts?_eq_some_iff {operators : OperatorTable m} (condition : List Char)
    {parts : Parts m} :
    parts? operators (Text.trim condition) = some parts ↔
      Decomposes operators (Text.trim condition) parts := by
  refine ⟨fun found => ?_, Decomposes.parts?_eq⟩
  apply decomposes_of_parts? (Text.isTrimmed_trim ?_) found
  intro none
  rw [none] at found
  cases found

theorem parts?_eq_none_of_no_operator {operators : OperatorTable m}
    {text subjectText after : List Char} {subject : Subject}
    (reads : Subject.Reads text subject subjectText after)
    (noOperator : operator? operators (Text.trimStart after) = none) :
    parts? operators text = none := by
  rw [parts?, reads.read?_eq]
  simp only [Option.bind_eq_bind, Option.bind_some, noOperator, Option.bind_none]

theorem parts?_eq_none_of_no_literal {operators : OperatorTable m} {operator : Operator m}
    {text subjectText after operatorText afterOperator : List Char} {subject : Subject}
    (reads : Subject.Reads text subject subjectText after)
    (found : operator? operators (Text.trimStart after) =
      some (operatorText, operator, afterOperator))
    (noLiteral : literal? operators (Text.trim afterOperator) = none) :
    parts? operators text = none := by
  rw [parts?_eq_map reads found, noLiteral, Option.map_none]

theorem evaluate_of_parts?_eq_none [Monad m] {vocabulary : Vocabulary m}
    {condition : String}
    (none : parts? vocabulary.operators (Text.trim condition.toList) = none)
    (context : Context) :
    evaluate vocabulary context condition =
      throw (.malformedCondition (String.ofList (Text.trim condition.toList))) := by
  rw [evaluate, none]

/-- A condition is taken apart exactly if it is made up of parts, whatever the table.
The search among as many words as the longest name has finds what a search among all of
them would find. Where the subject has no operator behind it, or the one there has no
literal behind it, the condition is malformed. -/
theorem decomposition_exact [Monad m] (vocabulary : Vocabulary m) (context : Context)
    (condition : String) :
    let operators := vocabulary.operators
    let text := Text.trim condition.toList
    (∀ parts, parts? operators text = some parts ↔ Decomposes operators text parts) ∧
    ∀ subject subjectText after, Subject.Reads text subject subjectText after →
      let rest := Text.trimStart after
      keywordName? operators operators.longestKeyword rest =
        keywordName? operators (Text.words rest).length rest ∧
      ((∀ operatorText operator afterOperator,
          ¬ Chooses operators rest operatorText operator afterOperator) →
        evaluate vocabulary context condition =
          throw (.malformedCondition (String.ofList text))) ∧
      ∀ operatorText operator afterOperator,
        Chooses operators rest operatorText operator afterOperator →
        literal? operators (Text.trim afterOperator) = none →
        evaluate vocabulary context condition =
          throw (.malformedCondition (String.ofList text)) := by
  intro operators text
  refine ⟨fun parts => parts?_eq_some_iff condition.toList, ?_⟩
  intro subject subjectText after reads rest
  rcases Text.exists_trimStart after with ⟨_, _, _, solid⟩
  refine ⟨keywordName?_longestKeyword solid, fun noOperator => ?_, ?_⟩
  · apply evaluate_of_parts?_eq_none
    apply parts?_eq_none_of_no_operator reads
    rw [Option.eq_none_iff_forall_ne_some]
    rintro ⟨operatorText, operator, afterOperator⟩ found
    exact noOperator _ _ _ ((operator?_eq_some_iff solid).mp found)
  · intro operatorText operator afterOperator chooses noLiteral
    apply evaluate_of_parts?_eq_none
    exact parts?_eq_none_of_no_literal reads
      ((operator?_eq_some_iff solid).mpr chooses) noLiteral

/-- Names that begin with one another, and a wide space in one of them. In the second
condition the name of two words is followed by nothing, and the one of a single word
is not tried. -/
theorem decomposition_exact_of_nested_names :
    let operators : OperatorTable Id :=
      OperatorTable.empty.insert "starts" (Operator.is false)
      |>.insert "starts with" (Operator.isIn true)
      |>.insert "starts with any of" (Operator.equals false)
    Decomposes operators "a Starts\u2003with any x".toList
        ⟨.path ['a'], ['a'], "Starts\u2003with".toList, "any x".toList,
          Operator.isIn true, "any x".toList⟩ ∧
      evaluate ⟨operators, .empty⟩ ⟨"", .null⟩ " a starts with " =
        throw (.malformedCondition "a starts with") := by
  intro operators
  have reads :
      Subject.Reads "a starts with".toList (.path ['a']) ['a'] " starts with".toList :=
    Subject.reads_of_read? rfl
  have solid : ∀ character ∈ "starts with".toList.head?, isBlank character = false := by
    intro character isFirst
    cases isFirst
    rfl
  have chooses : Chooses operators "starts with".toList "starts with".toList
      (Operator.isIn true) [] := (operator?_eq_some_iff solid).mp rfl
  have first := decomposition_exact (m := Id) ⟨operators, .empty⟩ ⟨"", .null⟩
    "a Starts\u2003with any x"
  have second :=
    decomposition_exact (m := Id) ⟨operators, .empty⟩ ⟨"", .null⟩ " a starts with "
  exact ⟨(first.1 _).mp rfl, (second.2 _ _ _ reads).2.2 _ _ _ chooses rfl⟩

end Condition

end Criteria
