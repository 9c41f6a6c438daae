import Criteria.Proofs.Condition.Context
import Criteria.Proofs.Condition.Front
import Criteria.Proofs.Condition.Reserved
import Criteria.Proofs.Condition.Stages
import Criteria.Proofs.Operator.Standard

/-!
Conditions whose literal is put in quotes.

A literal without quotes stands for its words with one space between them. Quoting that
text makes another condition with the same subject, the same operator and the same
literal: the quote is no symbol character, and no keyword has a quote in it. So both
conditions have the same value and the same errors, but for the error that a path is
malformed, which repeats the condition as it is written.
-/

namespace Criteria

open Text (quote words)

variable {m : Type → Type} {operators : OperatorTable m} {operator : Operator m}

namespace Condition

/-! ## Operators before a quoted text -/

theorem quote_mem_of_head?_words {content first : List Char}
    (isFirst : first ∈ (words (quote content)).head?) : '"' ∈ first := by
  have trimmed := Text.isTrimmed_quote content
  rcases exists_word_of_solid trimmed.nonempty trimmed.head with
    ⟨word, after, wordSpan, nonempty⟩
  rw [words_eq_cons wordSpan nonempty rfl] at isFirst
  cases Option.mem_some.mp isFirst
  cases first with
  | nil => exact absurd rfl nonempty
  | cons character rest =>
      have isQuote : '"' = character :=
        List.head_eq_of_cons_eq (Text.span_eq_iff.mp wordSpan).1
      rw [isQuote]
      exact List.mem_cons_self

theorem Chooses.requoted {whole text gap literalText : List Char}
    (noQuotes : ∀ key ∈ operators.keywordNames, '"' ∉ key.toList)
    (chooses : Chooses operators whole text operator (gap ++ literalText))
    (blank : Text.allBlank gap = true) (trimmed : Text.IsTrimmed literalText)
    (content : List Char) :
    Chooses operators (text ++ (gap ++ quote content)) text operator
      (gap ++ quote content) := by
  refine chooses.exchange (fun next isHead => ?_)
    (fun stops next isHead => ?_) fun more isNext => ?_
  · rcases Text.isBlank_or_mem_head? blank isHead with blankNext | isQuote
    · exact isSymbolCharacter_of_isBlank blankNext
    · cases isQuote
      decide
  · by_cases touches : gap = []
    · rw [touches, List.nil_append] at stops
      rcases List.exists_cons_of_ne_nil trimmed.nonempty with ⟨first, others, isText⟩
      have solid := trimmed.head first (by rw [isText]; rfl)
      rw [stops first (by rw [isText]; rfl)] at solid
      cases solid
    · exact Term.isBlank_of_head_gap blank touches next isHead
  · rw [Text.words_gap_append blank] at isNext
    cases more with
    | nil => exact .inl List.nil_prefix
    | cons first others =>
        rcases isNext with ⟨rest, equal⟩
        have isFirst : first ∈ (words (quote content)).head? := by
          rw [← equal]
          rfl
        exact .inr (operators.keyword?_eq_none_of_quote noQuotes
          (List.mem_append_right _ List.mem_cons_self) (quote_mem_of_head?_words isFirst))

/-! ## Conditions with the literal in quotes -/

theorem Decomposes.exists_requoted {text : List Char} {parts : Parts m}
    (noQuotes : ∀ key ∈ operators.keywordNames, '"' ∉ key.toList)
    (decomposes : Decomposes operators text parts) :
    ∃ front, front ≠ [] ∧ text = front ++ parts.literalText ∧
      Decomposes operators (front ++ quote parts.literal)
        { parts with literalText := quote parts.literal } := by
  rcases decomposes with
    ⟨gap, gap', blank, blank', equal, trimmed, reads, chooses, isLiteral⟩
  have nonempty := chooses.isTrimmed.nonempty
  have requoted := chooses.requoted noQuotes blank' trimmed parts.literal
  have sameHead : (gap ++ (parts.operatorText ++ (gap' ++ quote parts.literal))).head? =
      (gap ++ (parts.operatorText ++ (gap' ++ parts.literalText))).head? := by
    have filled : gap ++ parts.operatorText ≠ [] := by simp [nonempty]
    have starts (rest : List Char) : (gap ++ (parts.operatorText ++ rest)).head? =
        (gap ++ parts.operatorText).head? := by
      rw [← List.append_assoc, List.head?_append_of_ne_nil _ filled]
    rw [starts, starts]
  have sameStart :
      (Text.trimStart
        (gap ++ (parts.operatorText ++ (gap' ++ quote parts.literal)))).head? =
        (Text.trimStart
          (gap ++ (parts.operatorText ++ (gap' ++ parts.literalText)))).head? := by
    rw [Text.trimStart_append blank requoted.solid,
      Text.trimStart_append blank chooses.solid, List.head?_append_of_ne_nil _ nonempty,
      List.head?_append_of_ne_nil _ nonempty]
  refine ⟨parts.subjectText ++ gap ++ parts.operatorText ++ gap', by simp [nonempty],
    equal, gap, gap', blank, blank', rfl, Text.isTrimmed_quote _, ?_, requoted,
    literal?_quote ..⟩
  have exchanged := reads.exchange sameHead sameStart
  simpa only [List.append_assoc] using exchanged

/-! ## Quoting in place -/

/-- Puts the literal at the end of a condition in quotes. -/
inductive Requotes (parts : Parts m) (condition : List Char) : List Char → Prop
  | intro {before after : List Char}
      (equal : condition = before ++ parts.literalText ++ after)
      (blank : Text.allBlank after = true) :
      Requotes parts condition (before ++ quote parts.literal ++ after)

theorem Requotes.unique {parts : Parts m} {condition requoted requoted' : List Char}
    (trimmed : Text.IsTrimmed parts.literalText)
    (requotes : Requotes parts condition requoted)
    (requotes' : Requotes parts condition requoted') : requoted' = requoted := by
  have trimEnd_eq {before after : List Char} (blank : Text.allBlank after = true) :
      Text.trimEnd (before ++ parts.literalText ++ after) =
        before ++ parts.literalText := by
    refine Text.trimEnd_append blank fun character isLast => trimmed.last character ?_
    rwa [List.getLast?_append_of_ne_nil _ trimmed.nonempty] at isLast
  cases requotes with
  | @intro before after equal blank =>
      cases requotes' with
      | @intro before' after' equal' blank' =>
          have sameFront : before ++ parts.literalText = before' ++ parts.literalText :=
            calc before ++ parts.literalText
              _ = Text.trimEnd condition := by rw [equal, trimEnd_eq blank]
              _ = before' ++ parts.literalText := by rw [equal', trimEnd_eq blank']
          cases List.append_cancel_right sameFront
          cases List.append_cancel_left (equal.symm.trans equal')
          rfl

theorem exists_requotes {condition : List Char} {parts : Parts m}
    (noQuotes : ∀ key ∈ operators.keywordNames, '"' ∉ key.toList)
    (isParts : parts? operators (Text.trim condition) = some parts) :
    ∃ requoted, Requotes parts condition requoted ∧
      parts? operators (Text.trim requoted) =
        some { parts with literalText := quote parts.literal } := by
  rcases ((parts?_eq_some_iff condition).mp isParts).exists_requoted noQuotes with
    ⟨front, filled, equal, requoted⟩
  rcases Text.exists_trim condition with ⟨gap, after, whole, blank, blank'⟩
  have nonempty : Text.trim condition ≠ [] := by simp [equal, filled]
  have isTrimmed : Text.IsTrimmed (front ++ quote parts.literal) := by
    refine ⟨by simp [filled], fun character isHead => ?_, fun character isLast => ?_⟩
    · apply (Text.isTrimmed_trim nonempty).head
      rw [equal, List.head?_append_of_ne_nil _ filled]
      rwa [List.head?_append_of_ne_nil _ filled] at isHead
    · have trimmed := Text.isTrimmed_quote parts.literal
      rw [List.getLast?_append_of_ne_nil _ trimmed.nonempty] at isLast
      exact trimmed.last character isLast
  refine ⟨gap ++ front ++ quote parts.literal ++ after, .intro ?_ blank', ?_⟩
  · rw [whole, equal]
    simp only [List.append_assoc]
  · rw [List.append_assoc gap, Text.trim_eq blank blank' isTrimmed]
    exact requoted.parts?_eq

end Condition

/-! ## What is left of the text of a literal -/

/-- The operator makes no use of the literal as it is written. -/
def Operator.IgnoresLiteralText (operator : Operator m) : Prop :=
  ∀ (input : Input) (subjectText operatorText literalText literalText' : String),
    operator { input with tokens := [subjectText, operatorText, literalText] } =
      operator { input with tokens := [subjectText, operatorText, literalText'] }

variable [Monad m]

theorem Operator.standard_ignoresLiteralText :
    (standard : OperatorTable m).All Operator.IgnoresLiteralText :=
  standard_all (fun _ _ _ _ _ _ => rfl) (fun _ _ _ _ _ _ => rfl) (fun _ _ _ _ _ _ => rfl)
    fun _ _ _ _ _ _ => rfl

namespace Condition

theorem subjectValue_eq_of_wellFormed {functions : FunctionTable m} {context : Context}
    {subject : Subject} (isPath : ∀ name, subject = .path name → Path.read? name ≠ none)
    (isQuoted : ∀ text, subject = .quoted text →
      ∃ content, Text.unquote? text = some content)
    (condition condition' : String) :
    subjectValue functions context condition subject =
      subjectValue functions context condition' subject := by
  cases subject with
  | quoted text =>
      rcases isQuoted text rfl with ⟨content, unquoted⟩
      rw [subjectValue, subjectValue, unquoted]
  | path name =>
      rcases Option.ne_none_iff_exists'.mp (isPath name rfl) with ⟨path, read⟩
      rw [subjectValue, subjectValue, read]
  | call name arguments => rfl

theorem evaluate_of_malformed_path {vocabulary : Vocabulary Id} {condition : String}
    {parts : Parts Id} {name : List Char}
    (isParts : parts? vocabulary.operators (Text.trim condition.toList) = some parts)
    (isPath : parts.subject = .path name) (malformed : Path.read? name = none)
    (context : Context) :
    evaluate vocabulary context condition =
      throw (.malformedCondition (String.ofList (Text.trim condition.toList))) := by
  rw [evaluate]
  simp only [isParts, isPath, subjectValue, malformed]
  rfl

theorem evaluate_eq_of_literalText {vocabulary : Vocabulary m}
    {condition condition' : String} {parts : Parts m} {literalText : List Char}
    (ignores : vocabulary.IgnoresExpression)
    (ignoresText : vocabulary.operators.All Operator.IgnoresLiteralText)
    (isParts : parts? vocabulary.operators (Text.trim condition.toList) = some parts)
    (isParts' : parts? vocabulary.operators (Text.trim condition'.toList) =
      some { parts with literalText })
    (isPath : ∀ name, parts.subject = .path name → Path.read? name ≠ none)
    (context : Context) (expression : String) :
    evaluate vocabulary { context with expression } condition' =
      evaluate vocabulary context condition := by
  rw [evaluate_ignoresExpression ignores, evaluate, evaluate]
  have sameValue :=
    @subjectValue_eq_of_wellFormed m _ vocabulary.functions context parts.subject
    isPath (fun _ => exists_unquote?_of_parts? isParts)
  simp only [isParts, isParts', sameValue _ (String.ofList (Text.trim condition.toList))]
  refine bind_congr fun value => ?_
  exact property_of_parts? ignoresText isParts
    ⟨value, String.ofList parts.literal, [], context⟩ _ _ _ _

/-- A literal without quotes can be quoted: what it stands for, in quotes, gives the
condition the same value and the same errors. If the path is malformed, both conditions
are, and each is reported as it is written. A text that does not start with a quote is
no literal only if it is empty, if it holds a quote or a parenthesis, or if one of
several words in it is reserved. -/
theorem evaluate_requoted :
    let vocabulary : Vocabulary Id := ⟨Operator.standard, ValueFunction.standard⟩
    (∀ (condition : String) (parts : Parts Id),
      parts? vocabulary.operators (Text.trim condition.toList) = some parts →
      parts.literalText.head? ≠ some '"' →
      parts.literal = Text.joinWords (words parts.literalText) ∧
      ∃ requoted, (∀ other, Requotes parts condition.toList other ↔ other = requoted) ∧
        ∀ (object : Value) (expression expression' : String),
          ((∀ name, parts.subject = .path name → Path.read? name ≠ none) →
            evaluate vocabulary ⟨expression', object⟩ (String.ofList requoted) =
              evaluate vocabulary ⟨expression, object⟩ condition) ∧
          ∀ name, parts.subject = .path name → Path.read? name = none →
            evaluate vocabulary ⟨expression, object⟩ condition =
                throw (.malformedCondition (String.ofList (Text.trim condition.toList))) ∧
              evaluate vocabulary ⟨expression', object⟩ (String.ofList requoted) =
                throw (.malformedCondition (String.ofList (Text.trim requoted)))) ∧
    ∀ text : List Char, Text.trim text = text → text.head? ≠ some '"' →
      (literal? vocabulary.operators text = none ↔
        text = [] ∨ (∃ character ∈ text, character ∈ "\"()".toList) ∨
          (2 ≤ (words text).length ∧ ∃ word ∈ words text,
            Reserves vocabulary.operators word)) := by
  intro vocabulary
  have ignores : vocabulary.IgnoresExpression := Vocabulary.standard_ignoresExpression
  have ignoresText : vocabulary.operators.All Operator.IgnoresLiteralText :=
    Operator.standard_ignoresLiteralText
  have noQuotes : ∀ key ∈ vocabulary.operators.keywordNames, '"' ∉ key.toList :=
    Operator.noQuotes_standard
  refine ⟨fun condition parts isParts noQuote => ?_, fun text => literal?_eq_none_iff⟩
  have decomposes := (parts?_eq_some_iff condition.toList).mp isParts
  rcases decomposes with ⟨_, _, _, _, _, trimmed, _, _, isLiteral⟩
  rcases exists_requotes noQuotes isParts with ⟨requoted, requotes, found⟩
  have isParts' :
      parts? vocabulary.operators (Text.trim (String.ofList requoted).toList) =
      some { parts with literalText := quote parts.literal } := by
    rw [String.toList_ofList, found]
  refine ⟨eq_joinWords_of_literal? trimmed noQuote isLiteral, requoted,
    fun other => ⟨requotes.unique trimmed, fun same => same ▸ requotes⟩, ?_⟩
  intro object expression expression'
  refine ⟨fun isPath => ?_, fun name isPath malformed => ⟨?_, ?_⟩⟩
  · exact evaluate_eq_of_literalText ignores ignoresText isParts isParts' isPath
      ⟨expression, object⟩ expression'
  · exact evaluate_of_malformed_path isParts isPath malformed _
  · have reported :=
      evaluate_of_malformed_path isParts' isPath malformed ⟨expression', object⟩
    rwa [String.toList_ofList] at reported

theorem evaluate_requoted_of_words :
    let vocabulary : Vocabulary Id := ⟨Operator.standard, ValueFunction.standard⟩
    let context : Context := ⟨"", .map [("city", .string "New York")]⟩
    let outcome (condition : String) : Except EvaluationError Bool :=
      evaluate vocabulary context condition
    outcome " city =New\tYork " = .ok true ∧ outcome " city =\"New York\" " = .ok true ∧
      literal? vocabulary.operators "New York In".toList = none := by
  intro vocabulary context outcome
  have isTrue : outcome " city =New\tYork " = .ok true := by decide +kernel
  have found : (parts? vocabulary.operators (Text.trim " city =New\tYork ".toList)).map
      (fun parts => (parts.subject, parts.literalText, parts.literal)) =
        some (.path "city".toList, "New\tYork".toList,
          "New York".toList) := by decide +kernel
  rcases Option.map_eq_some_iff.mp found with ⟨parts, isParts, fields⟩
  rcases Prod.mk.inj fields with ⟨isPath, fields⟩
  rcases Prod.mk.inj fields with ⟨isText, isLiteral⟩
  have noQuote : parts.literalText.head? ≠ some '"' := by
    rw [isText]
    decide
  rcases (evaluate_requoted.1 _ parts isParts noQuote).2 with ⟨requoted, isRequoted, same⟩
  have requotes : Requotes parts " city =New\tYork ".toList
      (" city =".toList ++ quote parts.literal ++ " ".toList) := by
    refine .intro ?_ (by decide)
    rw [isText]
    decide
  have wellFormed : ∀ name, parts.subject = .path name → Path.read? name ≠ none := by
    intro name isName
    rw [isPath] at isName
    cases isName
    decide +kernel
  refine ⟨isTrue, ?_, ?_⟩
  · have sameValue := (same context.object "" "").1 wellFormed
    rw [← (isRequoted _).mp requotes, isLiteral] at sameValue
    exact sameValue.trans isTrue
  · refine (evaluate_requoted.2 _ (by decide) (by decide)).mpr
      (.inr (.inr ⟨by decide, ?_⟩))
    have isFirst : "IN".toList ∈ (words "IN".toList).head? := rfl
    exact ⟨"In".toList, by decide, .keyword rfl rfl isFirst (by decide)⟩

/-- The quotes are in the error about a malformed path. -/
theorem malformed_path_tells_quotes :
    let vocabulary : Vocabulary Id := ⟨Operator.standard, ValueFunction.standard⟩
    let context : Context := ⟨"", .map []⟩
    let outcome (condition : String) : Except EvaluationError Bool :=
      evaluate vocabulary context condition
    (parts? vocabulary.operators "a..b = x".toList).map (fun parts =>
        (parts.literalText, parts.literal)) = some ("x".toList, "x".toList) ∧
      outcome "a..b = x" = .error (.malformedCondition "a..b = x") ∧
      outcome "a..b = \"x\"" = .error (.malformedCondition "a..b = \"x\"") ∧
      outcome ("a..b = " ++ String.ofList (quote "x".toList)) ≠ outcome "a..b = x" :=
  ⟨by decide +kernel, by decide +kernel, by decide +kernel, by decide +kernel⟩

end Condition

end Criteria
