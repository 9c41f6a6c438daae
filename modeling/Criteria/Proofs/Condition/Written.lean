import Criteria.Condition.Evaluate
import Criteria.Function
import Criteria.Operator.Standard
import Criteria.Proofs.Condition.Operator
import Criteria.Proofs.Condition.Subject
import Criteria.Proofs.Term.Placement
import Criteria.Proofs.Text.Quoted

/-!
Conditions written from their parts.

A subject, an operator and a quoted literal with gaps between them are taken apart into
just these, whatever names the tables hold. The subject ends where it was ended. Of the
operator nothing stops short, for a table knows how many keywords its longest name has,
and nothing runs long: a phrase that went on would take in the quote of the literal, and
no keyword has a quote in it.
-/

namespace Criteria

open Text (quote)

/-! ## Subjects -/

theorem Quoting.closing?_escape (content after : List Char) :
    quoted.closing? (Text.escape content ++ '"' :: after) =
      some (Text.escape content ++ ['"'], after) := by
  induction content with
  | nil => rfl
  | cons character rest induction =>
      by_cases special : character = '"' ∨ character = '\\'
      · have opened : quoted.step '\\' = escaped := rfl
        have passed : escaped.step character = quoted := rfl
        rw [Text.escape, if_pos special]
        simp [closing?, opened, passed, induction]
      · rw [Text.escape, if_neg special, List.cons_append, closing?]
        rw [not_or] at special
        rw [step_of_quoted special.1 special.2]
        simp [induction]

theorem Text.quotedPart?_quote (content after : List Char) :
    quotedPart? (quote content ++ after) = some (quote content, after) := by
  have closed := Quoting.closing?_escape content after
  rw [quote, List.cons_append, List.cons_append, List.append_assoc, List.singleton_append,
    quotedPart?, closed]
  rfl

theorem Text.isTrimmed_quote (content : List Char) : IsTrimmed (quote content) where
  nonempty := List.cons_ne_nil _ _
  head := by
    rintro _ ⟨⟩
    decide
  last character isLast := by
    rw [quote, List.getLast?_concat] at isLast
    cases isLast
    decide

structure Subject.Name where
  text : List Char
  nonempty : text ≠ []
  named : ∀ character ∈ text, Subject.isNameCharacter character = true

theorem Subject.Name.isTrimmed (name : Subject.Name) : Text.IsTrimmed name.text :=
  Text.isTrimmed_of_solid name.nonempty fun character member =>
    (isNameCharacter_iff.mp (name.named character member)).1

theorem Subject.Name.isPlain (name : Subject.Name) :
    ∀ character ∈ name.text, Term.IsPlain character := by
  intro character member
  rcases isNameCharacter_iff.mp (name.named character member) with ⟨solid, _, notBracket⟩
  constructor
  case solid => exact solid
  all_goals
    rintro rfl
    exact notBracket (by decide)

theorem Subject.Name.isWord (name : Subject.Name) : Term.IsWord name.text :=
  Term.isWord_of_plain name.nonempty name.isPlain

structure Subject.EndsPath (after : List Char) : Prop where
  stops : ∀ next ∈ after.head?, isNameCharacter next = false
  noCall : (Text.trimStart after).head? ≠ some '('

inductive Topic where
  | path (name : Subject.Name)
  | quotation (content : List Char)
  | call (name : Subject.Name) (arguments : List Char)
      (balanced : Nesting.Balanced arguments)

namespace Topic

def written : Topic → List Char
  | path name => name.text
  | quotation content => quote content
  | call name arguments _ => name.text ++ Nesting.parenthesize arguments

def subject : Topic → Subject
  | path name => .path name.text
  | quotation content => .quoted (quote content)
  | call name arguments _ => .call name.text arguments

theorem reads (topic : Topic) {after : List Char} (ends : Subject.EndsPath after) :
    Subject.Reads (topic.written ++ after) topic.subject topic.written after := by
  cases topic with
  | path name => exact .path ⟨name.nonempty, name.named, ends.stops⟩ ends.noCall
  | quotation content => exact .quoted (Text.quotedPart?_quote content after)
  | call name arguments balanced =>
      have isName : Subject.IsName name.text ([] ++ '(' :: (arguments ++ ')' :: after)) :=
        ⟨name.nonempty, name.named, by simp [Subject.isNameCharacter]⟩
      have reads := Subject.Reads.call isName List.all_nil
        (Nesting.untilClosing?_of_scan? balanced after)
      simpa [written, subject, Nesting.parenthesize] using reads

theorem isTrimmed (topic : Topic) : Text.IsTrimmed topic.written := by
  cases topic with
  | path name => exact name.isTrimmed
  | quotation content => exact Text.isTrimmed_quote content
  | call name arguments =>
      have whole := name.isTrimmed.append (Term.isTrimmed_parenthesize arguments) []
      rw [List.append_nil] at whole
      exact whole

end Topic

/-! ## Keywords -/

inductive Spaced : List (List Char) → List Char → Prop
  | single {word : List Char} (nonempty : word ≠ [])
      (solid : ∀ character ∈ word, isBlank character = false) : Spaced [word] word
  | cons {word gap text : List Char} {words : List (List Char)} (nonempty : word ≠ [])
      (solid : ∀ character ∈ word, isBlank character = false)
      (blank : Text.allBlank gap = true)
      (apart : gap ≠ []) (rest : Spaced words text) :
        Spaced (word :: words) (word ++ gap ++ text)

theorem Spaced.solid {words : List (List Char)} {text : List Char}
    (spaced : Spaced words text) :
    ∀ word ∈ words, ∀ character ∈ word, isBlank character = false := by
  induction spaced with
  | single nonempty solid => simpa using solid
  | cons nonempty solid blank apart rest induction =>
      exact List.forall_mem_cons.mpr ⟨solid, induction⟩

theorem Spaced.exists_head {words : List (List Char)} {text : List Char}
    (spaced : Spaced words text) :
    ∃ first rest, text = first :: rest ∧ isBlank first = false := by
  cases spaced with
  | single nonempty solid =>
      rcases List.exists_cons_of_ne_nil nonempty with ⟨first, rest, rfl⟩
      exact ⟨first, rest, rfl, solid first List.mem_cons_self⟩
  | cons nonempty solid =>
      rcases List.exists_cons_of_ne_nil nonempty with ⟨first, rest, rfl⟩
      exact ⟨first, _, rfl, solid first List.mem_cons_self⟩

namespace Condition

def Phrase.prepend (text : List Char) (words : List (List Char)) (phrase : Phrase) :
    Phrase :=
  ⟨text ++ phrase.text, words ++ phrase.words, phrase.after⟩

theorem phrases_word {word gap next : List Char} (nonempty : word ≠ [])
    (solid : ∀ character ∈ word, isBlank character = false)
    (blank : Text.allBlank gap = true) (apart : gap ≠ [])
    (starts : ∀ character ∈ next.head?, isBlank character = false) (limit : Nat) :
    phrases (limit + 1) (word ++ (gap ++ next)) =
      ⟨word, [word], gap ++ next⟩ :: (phrases limit next).map
        (.prepend (word ++ gap) [word]) := by
  have blankSpan : (gap ++ next).span isBlank = (gap, next) :=
    Text.span_eq_iff.mpr ⟨rfl, List.all_eq_true.mp blank, starts⟩
  have wordSpan : (word ++ (gap ++ next)).span (!isBlank ·) = (word, gap ++ next) := by
    refine Text.span_eq_iff.mpr ⟨rfl, by simpa using solid, ?_⟩
    intro character isHead
    simp [Term.isBlank_of_head_gap blank apart character isHead]
  exact phrases_succ wordSpan nonempty blankSpan

theorem phrases_of_spaced {words : List (List Char)} {text gap next : List Char}
    (spaced : Spaced words text) (blank : Text.allBlank gap = true) (apart : gap ≠ [])
    (starts : ∀ character ∈ next.head?, isBlank character = false) (limit : Nat) :
    ∃ shorter, phrases (words.length + limit) (text ++ (gap ++ next)) =
      shorter ++ ⟨text, words, gap ++ next⟩ ::
        (phrases limit next).map (.prepend (text ++ gap) words) := by
  induction spaced with
  | @single word nonempty solid =>
      refine ⟨[], ?_⟩
      rw [List.length_singleton, Nat.add_comm,
        phrases_word nonempty solid blank apart starts]
      rfl
  | @cons word inner text words nonempty solid innerBlank innerApart rest induction =>
      rcases induction with ⟨shorter, equal⟩
      rcases rest.exists_head with ⟨first, others, isText, firstSolid⟩
      have innerStarts : ∀ character ∈ (text ++ (gap ++ next)).head?,
          isBlank character = false := by
        rw [isText]
        simpa using firstSolid
      -- One more word in front makes one more phrase, and each of the others longer by
      -- it.
      refine ⟨⟨word, [word], inner ++ (text ++ (gap ++ next))⟩ ::
        shorter.map (.prepend (word ++ inner) [word]), ?_⟩
      rw [List.length_cons, Nat.add_right_comm, List.append_assoc, List.append_assoc,
        phrases_word nonempty solid innerBlank innerApart innerStarts, equal,
        List.map_append, List.map_cons, List.map_map]
      simp [Function.comp_def, Phrase.prepend]

section Operator

variable {m : Type → Type} {operators : OperatorTable m} {operator : Operator m}

theorem keyword?_eq_none_of_phrase {limit : Nat} {content : List Char} {phrase : Phrase}
    (noQuotes : ∀ key ∈ operators.keywordNames, '"' ∉ key.toList)
    (member : phrase ∈ phrases limit (quote content)) (words : List (List Char)) :
    operators.keyword? (words ++ phrase.words) = none := by
  rcases exists_head_of_mem_phrases member with
    ⟨word, afterWord, others, wordSpan, nonempty, isWords⟩
  have inPhrase : word ∈ words ++ phrase.words := by simp [isWords]
  have hasQuote : '"' ∈ word := by
    have equal := (Text.span_eq_iff.mp wordSpan).1
    cases word with
    | nil => exact absurd rfl nonempty
    | cons first rest =>
        have isQuote : '"' = first := List.head_eq_of_cons_eq equal
        rw [isQuote]
        exact List.mem_cons_self
  exact operators.keyword?_eq_none_of_quote noQuotes inPhrase hasQuote

/-- Of the phrases before a quoted text the longest that is a name is found, for none
reaches into the quotes. -/
theorem operator?_of_keyword {words : List (List Char)} {text gap : List Char}
    (noQuotes : ∀ key ∈ operators.keywordNames, '"' ∉ key.toList)
    (found : operators.keyword? words = some operator) (spaced : Spaced words text)
    (noSymbol : ∀ first ∈ text.head?, isSymbolCharacter first = false)
    (blank : Text.allBlank gap = true) (apart : gap ≠ []) (content : List Char) :
    operator? operators (text ++ (gap ++ quote content)) =
      some (text, operator, gap ++ quote content) := by
  rcases spaced.exists_head with ⟨first, rest, isText, _⟩
  have notSymbol : ¬ (text ++ (gap ++ quote content)).head?.any isSymbolCharacter =
      true := by
    rw [isText] at noSymbol ⊢
    simpa using noSymbol
  rcases Nat.exists_eq_add_of_le
    (operators.length_le_longestKeyword found spaced.solid) with
    ⟨more, longest⟩
  rcases phrases_of_spaced spaced blank apart
    (Text.isTrimmed_quote content).head more with
    ⟨shorter, equal⟩
  -- The search starts at the longest phrase, so it goes through those with a quote in
  -- them first.
  have noneLonger : ∀ longer ∈
      (phrases more (quote content)).map (Phrase.prepend (text ++ gap) words),
      operators.keyword? longer.words = none := by
    rw [List.forall_mem_map]
    exact fun phrase member => keyword?_eq_none_of_phrase noQuotes member words
  rw [operator?, if_neg notSymbol, longest, equal, List.reverse_append, List.reverse_cons,
    List.append_assoc, List.findSome?_append, List.findSome?_eq_none_iff.mpr]
  · simp [found]
  · intro longer member
    rw [noneLonger longer (List.mem_reverse.mp member), Option.map_none]

end Operator

end Condition

/-! ## Operators -/

/-- How an operator can be written between a subject and a quoted literal: a gap, its
name, and another gap. A symbol may touch both; keywords are in any letter case. -/
inductive Operator.Spelled (name : String) : List Char → List Char → List Char → Prop
  | symbol {gap gap' : List Char} (isSymbol : kind name = .symbol)
      (blank : Text.allBlank gap = true) (blank' : Text.allBlank gap' = true) :
      Spelled name gap (Text.trim name.toList) gap'
  | keyword {gap text gap' : List Char} {words : List (List Char)}
      (isKeyword : kind name = .keyword) (spaced : Spaced words text)
      (caseless : words.map Text.upper = (Text.words name.toList).map Text.upper)
      (starts : ∀ first ∈ text.head?, isSymbolCharacter first = false ∧ first ≠ '(')
      (blank : Text.allBlank gap = true) (apart : gap ≠ [])
      (blank' : Text.allBlank gap' = true)
      (apart' : gap' ≠ []) : Spelled name gap text gap'

namespace Operator.Spelled

variable {m : Type → Type} {operators : OperatorTable m} {operator : Operator m}
  {name : String} {gap text gap' : List Char}

theorem blank_before (spelled : Spelled name gap text gap') :
    Text.allBlank gap = true := by
  cases spelled with
  | symbol _ blank => exact blank
  | keyword _ _ _ _ blank => exact blank

theorem blank_after (spelled : Spelled name gap text gap') :
    Text.allBlank gap' = true := by
  cases spelled with
  | symbol _ _ blank' => exact blank'
  | keyword _ _ _ _ _ _ blank' => exact blank'

theorem exists_head (spelled : Spelled name gap text gap') :
    ∃ first rest, text = first :: rest ∧ isBlank first = false ∧ first ≠ '(' ∧
      (gap = [] → isSymbolCharacter first = true) := by
  cases spelled with
  | symbol isSymbol =>
      have symbolic := isSymbol_iff.mp (kind_eq_symbol_iff.mp isSymbol)
      rcases List.exists_cons_of_ne_nil symbolic.1 with ⟨first, rest, equal⟩
      have firstSymbol := symbolic.2 first (by simp [equal])
      have plain := isPlain_of_isSymbolCharacter firstSymbol
      exact ⟨first, rest, equal, plain.solid, plain.notOpen, fun _ => firstSymbol⟩
  | keyword _ spaced _ starts _ apart =>
      rcases spaced.exists_head with ⟨first, rest, rfl, solid⟩
      exact ⟨first, rest, rfl, solid, (starts first rfl).2, fun touches =>
        absurd touches apart⟩

theorem trimStart_eq (spelled : Spelled name gap text gap') (after : List Char) :
    Text.trimStart (gap ++ (text ++ after)) = text ++ after := by
  rcases spelled.exists_head with ⟨first, rest, rfl, solid, _⟩
  exact Text.trimStart_append spelled.blank_before (by simpa using solid)

theorem endsPath (spelled : Spelled name gap text gap') (after : List Char) :
    Subject.EndsPath (gap ++ (text ++ after)) := by
  have trimmed := spelled.trimStart_eq after
  rcases spelled.exists_head with ⟨first, rest, rfl, _, notOpen, touches⟩
  refine ⟨?_, ?_⟩
  · intro next isHead
    rw [← Bool.not_eq_true, Subject.isNameCharacter_iff]
    rintro ⟨solid, noSymbol, _⟩
    cases gap with
    | nil =>
        cases isHead
        rw [touches rfl] at noSymbol
        cases noSymbol
    | cons blank others =>
        cases isHead
        rw [List.all_eq_true.mp spelled.blank_before next List.mem_cons_self] at solid
        cases solid
  · rw [trimmed]
    simpa using notOpen

theorem operator?_eq
    (noQuotes : kind name = .keyword → ∀ key ∈ operators.keywordNames, '"' ∉ key.toList)
    (found : operators.get? name = some operator) (spelled : Spelled name gap text gap')
    (content : List Char) :
    Condition.operator? operators (text ++ (gap' ++ quote content)) =
      some (text, operator, gap' ++ quote content) := by
  cases spelled with
  | symbol isSymbol blank blank' =>
      rw [operators.get?_of_symbol isSymbol] at found
      apply Condition.operator?_of_symbol found
      intro next isHead
      rcases Text.isBlank_or_mem_head? blank' isHead with blankNext | isQuote
      · exact isSymbolCharacter_of_isBlank blankNext
      · cases isQuote
        decide
  | keyword isKeyword spaced caseless starts blank apart blank' apart' =>
      have found := operators.keyword?_of_get? isKeyword caseless found
      exact Condition.operator?_of_keyword (noQuotes isKeyword) found spaced
        (fun first isHead => (starts first isHead).1) blank' apart' content

end Operator.Spelled

/-! ## Whole conditions -/

theorem Condition.literal?_quote {m : Type → Type} (operators : OperatorTable m)
    (content : List Char) : literal? operators (quote content) = some content := by
  have isQuoted : (quote content).head? = some '"' := rfl
  rw [literal?, if_neg (by simp [quote]), if_pos isQuoted, Text.unquote?_quote]

namespace Topic

variable {m : Type → Type} {operators : OperatorTable m} {operator : Operator m}
  {name : String} {gap text gap' : List Char}

theorem parts?_eq (topic : Topic)
    (noQuotes : Operator.kind name = .keyword → ∀ key ∈ operators.keywordNames,
      '"' ∉ key.toList)
    (found : operators.get? name = some operator)
    (spelled : Operator.Spelled name gap text gap') (content : List Char) :
    Condition.parts? operators (topic.written ++ gap ++ text ++ gap' ++ quote content) =
      some ⟨topic.subject, topic.written, text, quote content, operator, content⟩ := by
  have literal : Text.trim (gap' ++ quote content) = quote content := by
    have whole :=
      Text.trim_eq spelled.blank_after List.all_nil (Text.isTrimmed_quote content)
    rw [List.append_nil] at whole
    exact whole
  have reads := topic.reads (spelled.endsPath (gap' ++ quote content))
  rw [List.append_assoc, List.append_assoc, List.append_assoc, Condition.parts?,
    reads.read?_eq]
  simp only [Option.bind_eq_bind, Option.bind_some, spelled.trimStart_eq,
    spelled.operator?_eq noQuotes found, literal, Condition.literal?_quote]
  rfl

variable [Monad m]

def value (functions : FunctionTable m) (context : Context) (condition : String) :
    Topic → ExceptT EvaluationError m (Option Value)
  | .path name =>
      match Path.read? name.text with
      | some steps => return context.object.follow? steps
      | none => throw (.malformedCondition condition)
  | .quotation content => return some (.string (String.ofList content))
  | .call name arguments _ =>
      match Subject.arguments? arguments, functions.get? (String.ofList name.text) with
      | none, _ => throw (.wrongArguments (String.ofList name.text))
      | some _, none => throw (.unknownFunction (String.ofList name.text))
      | some arguments, some function => do
          return some (← function { arguments := arguments.map String.ofList, context })

theorem subjectValue_eq (topic : Topic) (functions : FunctionTable m) (context : Context)
    (condition : String) :
    Condition.subjectValue functions context condition topic.subject =
      topic.value functions context condition := by
  cases topic with
  | path name => rfl
  | quotation content => rw [subject, Condition.subjectValue, Text.unquote?_quote, value]
  | call name arguments => rfl

end Topic

/-- A condition that was written from a subject, an operator and a literal gives the
operator just these: the value of the subject, the literal as it was before it was
quoted, and all three as they were written. A subject without a value, as a call of an
unknown function, gives its error. -/
theorem Condition.evaluate_assembled {m : Type → Type} [Monad m]
    {vocabulary : Vocabulary m} {operator : Operator m} {name : String}
    {gap text gap' : List Char}
    (noQuotes : ∀ key ∈ vocabulary.operators.keywordNames, '"' ∉ key.toList)
    (found : vocabulary.operators.get? name = some operator)
    (spelled : Operator.Spelled name gap text gap') (topic : Topic) (literal : List Char)
    (context : Context) :
    let condition := String.ofList (topic.written ++ gap ++ text ++ gap' ++ quote literal)
    evaluate vocabulary context condition = (do
      let value ← topic.value vocabulary.functions context condition
      operator {
        value
        literal := String.ofList literal
        tokens := [topic.written, text, quote literal].map String.ofList
        context }) := by
  have trimmed :=
    topic.isTrimmed.append (Text.isTrimmed_quote literal) (gap ++ text ++ gap')
  simp only [← List.append_assoc] at trimmed
  have parts := topic.parts?_eq (fun _ => noQuotes) found spelled literal
  intro condition
  rw [evaluate]
  simp only [condition, String.toList_ofList, trimmed.trim_eq, parts,
    topic.subjectValue_eq]

/-- The quotes in the argument hold parentheses, and the table has a shorter name and a
longer one that the words of the condition would go on with. -/
theorem Condition.evaluate_assembled_of_longer_name :
    let startsWith : Operator Id := Operator.isIn true
    let vocabulary : Vocabulary Id := {
      operators := OperatorTable.empty.insert "starts with" startsWith
        |>.insert "Starts" (Operator.is false)
          |>.insert "starts with any of" (Operator.isIn false)
      functions := ValueFunction.standard }
    (∀ key ∈ vocabulary.operators.keywordNames, '"' ∉ key.toList) ∧
      evaluate vocabulary ⟨"", .null⟩
          "LEN(\"a),(\")\nsTARTS\t With \"any of \\\"it\\\\\"" =
        startsWith {
          value := some (.number (.unsigned 4))
          literal := "any of \"it\\"
          tokens := ["LEN(\"a),(\")", "sTARTS\t With", "\"any of \\\"it\\\\\""]
          context := ⟨"", .null⟩ } := by
  intro startsWith vocabulary
  have noQuotes : ∀ key ∈ vocabulary.operators.keywordNames, '"' ∉ key.toList := by
    decide +kernel
  have found : vocabulary.operators.get? "starts with" = some startsWith := rfl
  have solid {word : List Char} (isWord : Text.words word = [word]) :
      ∀ character ∈ word, isBlank character = false :=
    Text.solid_of_mem_words (isWord ▸ List.mem_singleton_self word)
  have spaced : Spaced ["sTARTS".toList, "With".toList]
      ("sTARTS".toList ++ "\t ".toList ++ "With".toList) :=
    .cons (by decide) (solid (by decide)) (by decide) (by decide)
      (.single (by decide) (solid (by decide)))
  have starts : ∀ first ∈ "sTARTS\t With".toList.head?,
      isSymbolCharacter first = false ∧ first ≠ '(' := by
    rintro _ ⟨⟩
    decide
  have spelled :
      Operator.Spelled "starts with" "\n".toList "sTARTS\t With".toList " ".toList :=
    .keyword (by decide) spaced (by decide) starts (by decide) (by decide) (by decide)
      (by decide)
  have named : "LEN".toList.all Subject.isNameCharacter = true := by decide
  have assembled := evaluate_assembled noQuotes found spelled
    (.call ⟨"LEN".toList, by decide, List.all_eq_true.mp named⟩ "\"a),(\"".toList
      (by decide)) "any of \"it\\".toList ⟨"", .null⟩
  have arguments : Subject.arguments? "\"a),(\"".toList = some ["\"a),(\"".toList] := rfl
  have isLength : vocabulary.functions.get? (String.ofList "LEN".toList) =
      some ValueFunction.length := rfl
  refine ⟨noQuotes, assembled.trans ?_⟩
  simp only [Topic.value, arguments, isLength]
  rfl

end Criteria
