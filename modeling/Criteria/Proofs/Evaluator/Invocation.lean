import Criteria.Proofs.Condition.Arguments
import Criteria.Proofs.Condition.Stages
import Criteria.Proofs.Evaluator.IntegerComparison

/-!
Conditions about the result of a call.

Four readers follow the quotes and parentheses of a call: the one that cuts an
expression into terms, the one that looks for the end of the subject, the one that
splits the arguments, and the one that takes off the quotes of an argument. They agree:
the condition stands alone, its subject is the call, the function gets the arguments as
they were before they were written, and a quoted argument is the text that was quoted.
-/

namespace Criteria

open Nesting (Balanced parenthesize)
open Text (quote)

/-- A condition about the result of a call, as it can be written. -/
structure Invocation where
  name : Subject.Name
  spacing : List Char
  inner : List Char
  gap : List Char
  symbol : List Char
  gap' : List Char
  literal : List Char
  content : List Char
  noKeyword : Term.keyword? name.text = none
  blankSpacing : Text.allBlank spacing = true
  blankGap : Text.allBlank gap = true
  blankGap' : Text.allBlank gap' = true
  isLiteral : Literal literal content

namespace Invocation

variable {m : Type → Type} {operators : OperatorTable m} {operator : Operator m}

def call (invocation : Invocation) : List Char :=
  invocation.name.text ++ invocation.spacing ++ parenthesize invocation.inner

def text (invocation : Invocation) : List Char :=
  invocation.call ++ invocation.gap ++ invocation.symbol ++ invocation.gap' ++
    invocation.literal

theorem isTrimmed (invocation : Invocation) : Text.IsTrimmed invocation.text := by
  have trimmed := invocation.name.isTrimmed.append invocation.isLiteral.isTrimmed
    (invocation.spacing ++ parenthesize invocation.inner ++ invocation.gap ++
      invocation.symbol ++ invocation.gap')
  simpa only [text, call, List.append_assoc] using trimmed

theorem parts?_eq (invocation : Invocation) (balanced : Balanced invocation.inner)
    (found : operators.symbol? invocation.symbol = some operator) :
    Condition.parts? operators invocation.text =
      some ⟨.call invocation.name.text invocation.inner, invocation.call,
        invocation.symbol, invocation.literal, operator, invocation.content⟩ := by
  rcases invocation with
    ⟨name, spacing, inner, gap, symbol, gap', literal, content, noKeyword, blankSpacing,
    blankGap, blankGap', isLiteral⟩
  simp only at balanced found
  have closed :=
    Nesting.untilClosing?_of_scan? balanced (gap ++ (symbol ++ (gap' ++ literal)))
  have isName : Subject.IsName name.text
      (spacing ++ '(' :: (inner ++ ')' :: (gap ++ (symbol ++ (gap' ++ literal))))) := by
    refine ⟨name.nonempty, name.named, ?_⟩
    intro next isHead
    rcases Text.isBlank_or_mem_head? blankSpacing isHead with blank | isOpen
    · simp [Subject.isNameCharacter, blank]
    · cases isOpen
      decide
  have reads := Subject.Reads.call isName blankSpacing closed
  have parts := Condition.parts?_of_symbol reads found blankGap blankGap' isLiteral
  simpa only [text, call, parenthesize, List.append_assoc, List.cons_append,
    List.nil_append] using parts

theorem read_of_spacing {name spacing inner gap rest : List Char}
    (isWord : Term.IsWord name) (noKeyword : Term.keyword? name = none)
    (blank : Text.allBlank spacing = true) (apart : spacing ≠ [])
    (balanced : Balanced inner) (blankGap : Text.allBlank gap = true) (run : Run rest) :
    let text := name ++ (spacing ++ (parenthesize inner ++ (gap ++ rest)))
    Expr.read text = .ok (.leaf ⟨0, Text.byteSize text⟩) := by
  intro text
  rcases run.exists_tiled (0 + Text.byteSize name + Text.byteSize spacing +
    Text.byteSize (parenthesize inner) + Text.byteSize gap) with
    ⟨first, others, tiled, _, ended, areWords⟩
  have grouped := Term.Tiled.group balanced (tiled.blanks blankGap)
  have whole := Term.Tiled.word isWord
    (fun next isHead => .inl (Term.isBlank_of_head_gap blank apart next isHead))
    (grouped.blanks blank)
  refine whole.read_eq (by simp [Term.wordKind, noKeyword]) ?_ rfl ?_
  · rw [List.forall_mem_cons]
    refine ⟨by simp, ?_⟩
    intro term member connective
    simp [areWords term member]
  · rw [List.getLastD_cons, List.getLastD_cons, ended]
    simp only [Text.byteSize_append]
    omega

theorem read_eq (invocation : Invocation) (balanced : Balanced invocation.inner)
    (found : operators.symbol? invocation.symbol = some operator) :
    Expr.read invocation.text = .ok (.leaf ⟨0, Text.byteSize invocation.text⟩) := by
  have isWord := invocation.name.isWord
  have seamless := OperatorTable.isSeamless_of_symbol? found
  rcases invocation with
    ⟨name, spacing, inner, gap, symbol, gap', literal, content, noKeyword, blankSpacing,
    blankGap, blankGap', isLiteral⟩
  simp only at balanced found isWord seamless
  by_cases touches : spacing = []
  · have isCall := Term.isWord_call name.nonempty name.isPlain noKeyword balanced
    have bracket : '(' ∈ name.text ++ parenthesize inner := by simp [parenthesize]
    have run := run_comparison isCall (Term.keyword?_eq_none bracket (by decide))
      found blankGap blankGap' isLiteral
    simpa only [text, call, touches, List.append_nil] using run.read_eq
  · have isSymbol : Term.IsWord ([] ++ symbol) :=
      seamless.isWord (OperatorTable.symbol_of_symbol? found).1
    have read := read_of_spacing isWord noKeyword blankSpacing touches balanced blankGap
      (run_symbol isSymbol found blankGap' isLiteral)
    simpa only [text, call, List.append_assoc, List.nil_append] using read

/-! ## Evaluation -/

def context (invocation : Invocation) (object : Value) : Context :=
  ⟨String.ofList invocation.text, object⟩

def input (invocation : Invocation) (object value : Value) : Operator.Input where
  value := some value
  literal := String.ofList invocation.content
  tokens := [invocation.call, invocation.symbol, invocation.literal].map String.ofList
  context := invocation.context object

variable [Monad m] {vocabulary : Vocabulary m} {function : ValueFunction m}
  {arguments : List (List Char)}

theorem evaluate_eq_condition (invocation : Invocation)
    (balanced : Balanced invocation.inner)
    (found : vocabulary.operators.symbol? invocation.symbol = some operator)
    (object : Value) :
    (Evaluator.ofVocabulary vocabulary).evaluate (String.ofList invocation.text) object =
      (do
        let value ← Condition.subjectValue vocabulary.functions
          (invocation.context object) (String.ofList invocation.text)
          (.call invocation.name.text invocation.inner)
        operator { invocation.input object .null with value }) := by
  have parts := invocation.parts?_eq balanced found
  rw [Evaluator.evaluate_of_leaf (invocation.read_eq balanced found), Condition.evaluate]
  simp only [String.toList_ofList, invocation.isTrimmed.trim_eq, parts]
  rfl

theorem evaluate_eq [LawfulMonad m] (invocation : Invocation)
    (lists : Subject.Lists invocation.inner arguments)
    (known : vocabulary.functions.get? (String.ofList invocation.name.text) =
      some function)
    (found : vocabulary.operators.symbol? invocation.symbol = some operator)
    (object : Value) :
    (Evaluator.ofVocabulary vocabulary).evaluate (String.ofList invocation.text) object =
      (do
        let value ← function ⟨arguments.map String.ofList, invocation.context object⟩
        operator (invocation.input object value)) := by
  rw [invocation.evaluate_eq_condition lists.balanced found]
  simp only [Condition.subjectValue, lists.arguments?_eq, known, bind_assoc, pure_bind]
  rfl

theorem evaluate_eq_throw [LawfulMonad m] (invocation : Invocation)
    (balanced : Balanced invocation.inner)
    (fails : Subject.arguments? invocation.inner = none)
    (found : vocabulary.operators.symbol? invocation.symbol = some operator)
    (object : Value) :
    (Evaluator.ofVocabulary vocabulary).evaluate (String.ofList invocation.text) object =
      throw (.wrongArguments (String.ofList invocation.name.text)) := by
  rw [invocation.evaluate_eq_condition balanced found]
  apply ExceptT.ext
  simp only [Condition.subjectValue, fails]
  rw [ExceptT.run_bind, ExceptT.run_throw, pure_bind]
  rfl

end Invocation

/-! ## The calls -/

variable {σ : Type}

/-- An evaluation from one state to another, with its outcome and the calls on the way.
Recording the calls changes neither the outcome nor the states. -/
structure Evaluates (vocabulary : Vocabulary (StateM σ)) (text : List Char)
    (object : Value) (state : σ) (outcome : Except EvaluationError Bool)
    (calls : List Condition.Call) (last : σ) :
    Prop where
  run_eq : ((Evaluator.ofVocabulary vocabulary).evaluate
    (String.ofList text) object).run.run state = (outcome, last)
  recorded_eq :
    ((Evaluator.ofVocabulary (Condition.recordCalls vocabulary)).evaluate
      (String.ofList text) object).run.run ([], state) = (outcome, calls, last)

namespace Condition

variable {vocabulary : Vocabulary (StateM σ)}

theorem get?_recordCalls {name : String} {function : ValueFunction (StateM σ)}
    (known : vocabulary.functions.get? name = some function) :
    (recordCalls vocabulary).functions.get? name = some fun input =>
      record (.function (ValueFunction.normalize name) input) (function input) := by
  simp only [recordCalls, FunctionTable.get?_map, known, Option.map_some]

theorem symbol?_recordCalls {symbol : List Char} {operator : Operator (StateM σ)}
    (found : vocabulary.operators.symbol? symbol = some operator) :
    (recordCalls vocabulary).operators.symbol? symbol = some fun input =>
      record (.operator (String.ofList symbol) input) (operator input) := by
  simp only [recordCalls, OperatorTable.symbol?_map, found, Option.map_some]

end Condition

namespace Invocation

variable {vocabulary : Vocabulary (StateM σ)} {function : ValueFunction (StateM σ)}
  {operator : Operator (StateM σ)} {arguments : List (List Char)} {state middle last : σ}

def functionCall (invocation : Invocation) (arguments : List (List Char))
    (object : Value) :
    Condition.Call :=
  .function (ValueFunction.normalize (String.ofList invocation.name.text))
    ⟨arguments.map String.ofList, invocation.context object⟩

def operatorCall (invocation : Invocation) (object value : Value) : Condition.Call :=
  .operator (String.ofList invocation.symbol) (invocation.input object value)

theorem evaluates_of_error {error : EvaluationError} (invocation : Invocation)
    (lists : Subject.Lists invocation.inner arguments)
    (known : vocabulary.functions.get? (String.ofList invocation.name.text) =
      some function)
    (found : vocabulary.operators.symbol? invocation.symbol = some operator)
    (object : Value)
    (ran : (function ⟨arguments.map String.ofList, invocation.context object⟩).run.run
      state = (.error error, last)) :
    Evaluates vocabulary invocation.text object state (.error error)
      [invocation.functionCall arguments object] last where
  run_eq := by
    rw [invocation.evaluate_eq lists known found object]
    exact Evaluator.run_bind_of_error ran
  recorded_eq := by
    rw [invocation.evaluate_eq lists (Condition.get?_recordCalls known)
      (Condition.symbol?_recordCalls found) object]
    exact Evaluator.run_bind_of_error (Condition.record_run ran)

theorem evaluates_of_ok {value : Value} {outcome : Except EvaluationError Bool}
    (invocation : Invocation) (lists : Subject.Lists invocation.inner arguments)
    (known : vocabulary.functions.get? (String.ofList invocation.name.text) =
      some function)
    (found : vocabulary.operators.symbol? invocation.symbol = some operator)
    (object : Value)
    (ran : (function ⟨arguments.map String.ofList, invocation.context object⟩).run.run
      state = (.ok value, middle))
    (decided : (operator (invocation.input object value)).run.run middle =
      (outcome, last)) :
    Evaluates vocabulary invocation.text object state outcome
      [invocation.functionCall arguments object, invocation.operatorCall object value]
        last where
  run_eq := by
    rw [invocation.evaluate_eq lists known found object, Evaluator.run_bind_of_ok ran]
    exact decided
  recorded_eq := by
    rw [invocation.evaluate_eq lists (Condition.get?_recordCalls known)
      (Condition.symbol?_recordCalls found) object,
      Evaluator.run_bind_of_ok (Condition.record_run ran)]
    exact Condition.record_run decided

theorem evaluates_of_blank (invocation : Invocation) {slots : List Subject.Slot}
    {slot : Subject.Slot} (isJoined : invocation.inner = Subject.Slot.join slots)
    (several : 2 ≤ slots.length) (member : slot ∈ slots) (blank : slot.text = [])
    (found : vocabulary.operators.symbol? invocation.symbol = some operator)
    (object : Value) (state : σ) :
    Evaluates vocabulary invocation.text object state
      (.error (.wrongArguments (String.ofList invocation.name.text))) [] state := by
  have balanced : Balanced invocation.inner := isJoined ▸ Subject.Slot.balanced_join slots
  have fails : Subject.arguments? invocation.inner = none := by
    rw [isJoined]
    exact Subject.Slot.arguments?_join_eq_none several member blank
  constructor
  · rw [invocation.evaluate_eq_throw balanced fails found object]
    rfl
  · rw [invocation.evaluate_eq_throw balanced fails
      (Condition.symbol?_recordCalls found) object]
    rfl

end Invocation

/-! ## Lengths -/

theorem Context.argumentValue?_quote (context : Context) (content : List Char) :
    context.argumentValue? (String.ofList (quote content)) =
      some (.string (String.ofList content)) := by
  rw [argumentValue?, String.toList_ofList, Text.unquote?_quote]

theorem Number.intText_natCast (value : Nat) :
    text.intText value = Nat.toDigits 10 value := by
  rw [text.intText, if_neg (by omega), Int.natAbs_natCast]

def Subject.Name.length : Subject.Name where
  text := "LEN".toList
  nonempty := by decide
  named := by
    have named : "LEN".toList.all isNameCharacter = true := by decide
    exact List.all_eq_true.mp named

def Invocation.lengthOfQuote (content : List Char) (count : Nat) : Invocation where
  name := .length
  spacing := []
  inner := quote content
  gap := [' ']
  symbol := ['=']
  gap' := [' ']
  literal := Nat.toDigits 10 count
  content := Nat.toDigits 10 count
  noKeyword := by decide
  blankSpacing := rfl
  blankGap := rfl
  blankGap' := rfl
  isLiteral := Number.intText_natCast count ▸ Number.literal_intText count

theorem Subject.lists_quote (content : List Char) :
    Lists (quote content) [quote content] := by
  have lists :=
    @Lists.slots [⟨[], quote content, [], rfl, rfl, fun _ => isArgument_quote content⟩]
  simpa [Slot.join, Slot.written, quote] using lists

theorem Invocation.text_lengthOfQuote (content : List Char) (count : Nat) :
    (lengthOfQuote content count).text =
      "LEN(".toList ++ quote content ++ ") = ".toList ++ Nat.toDigits 10 count := by
  simp [text, call, lengthOfQuote, Subject.Name.length, parenthesize]

theorem ValueFunction.length_quote {m : Type → Type} [Monad m] (content : List Char)
    (context : Context) :
    (length : ValueFunction m) ⟨[String.ofList (quote content)], context⟩ =
      pure (.number (.unsigned (UInt64.ofNat content.length))) := by
  simp only [length, context.argumentValue?_quote, Value.length, String.toList_ofList]

theorem evaluate_length_of_quote {content : List Char} {count : Nat}
    (short : content.length < UInt64.size) (small : count < UInt64.size)
    (object : Value) :
    evaluate (String.ofList ("LEN(".toList ++ quote content ++ ") = ".toList ++
      Nat.toDigits 10 count)) object = .ok (decide (content.length = count)) := by
  have known : (Evaluator.standard : Evaluator Id).vocabulary.functions.get?
      (String.ofList "LEN".toList) = some ValueFunction.length := rfl
  have found : (Evaluator.standard : Evaluator Id).vocabulary.operators.symbol? ['='] =
      some (Relation.operator .equal) := rfl
  have measured : (Value.number (.unsigned (UInt64.ofNat content.length))).IsInteger
      content.length :=
    .number (congrArg (some ∘ Int.ofNat) (UInt64.toNat_ofNat_of_lt' short))
  have holds {size : Nat} (fits : size < UInt64.size) : Number.Holds size := by
    rw [Number.holds_iff]
    rw [UInt64.size] at fits
    omega
  let invocation := Invocation.lengthOfQuote content count
  let size : Value := .number (.unsigned (UInt64.ofNat content.length))
  have evaluated :=
    invocation.evaluate_eq (Subject.lists_quote content) known found object
  have decided : (Relation.operator .equal : Operator Id) (invocation.input object size) =
      pure (Relation.equal.relates content.length count) :=
    Relation.operator_eq .equal measured (holds short) (holds small) rfl
      (congrArg String.ofList (Number.intText_natCast count).symm)
  rw [List.map_singleton, ValueFunction.length_quote, pure_bind, decided,
    Invocation.text_lengthOfQuote] at evaluated
  refine evaluated.trans (congrArg Except.ok ?_)
  rw [Relation.relates, decide_eq_decide]
  exact Int.ofNat_inj

/-! ## All together -/

/-- Arguments survive being written and split. The function is called once, with the
arguments as they were before blanks and commas were put around them, and then, if it
has a result, the operator is. If one slot of several is blank, nothing is called. A
quoted argument stands for the text that was quoted, so `LEN` of it is the number of its
characters; a text has fewer than `UInt64.size`. -/
theorem evaluate_invocation {σ : Type} {vocabulary : Vocabulary (StateM σ)}
    {operator : Operator (StateM σ)} (invocation : Invocation)
    (found : vocabulary.operators.symbol? invocation.symbol = some operator)
    (object : Value) (state : σ) :
    (∀ arguments function, Subject.Lists invocation.inner arguments →
      vocabulary.functions.get? (String.ofList invocation.name.text) = some function →
      let ran :=
        (function ⟨arguments.map String.ofList, invocation.context object⟩).run.run state
      (∀ error last, ran = (.error error, last) →
        Evaluates vocabulary invocation.text object state (.error error)
          [invocation.functionCall arguments object] last) ∧
      ∀ value middle outcome last, ran = (.ok value, middle) →
        (operator (invocation.input object value)).run.run middle = (outcome, last) →
        Evaluates vocabulary invocation.text object state outcome
          [invocation.functionCall arguments object,
            invocation.operatorCall object value] last) ∧
    (∀ slots, invocation.inner = Subject.Slot.join slots → 2 ≤ slots.length →
      (∃ slot ∈ slots, slot.text = []) →
      Evaluates vocabulary invocation.text object state
        (.error (.wrongArguments (String.ofList invocation.name.text))) [] state) ∧
    (∀ content, Subject.IsArgument (quote content) ∧
      (invocation.context object).argumentValue? (String.ofList (quote content)) =
        some (.string (String.ofList content))) ∧
    ∀ content count, content.length < UInt64.size → count < UInt64.size →
      evaluate (String.ofList ("LEN(".toList ++ quote content ++ ") = ".toList ++
        Nat.toDigits 10 count)) object = .ok (decide (content.length = count)) := by
  refine ⟨?_, ?_, ?_, ?_⟩
  · intro arguments function lists known ran
    exact ⟨fun _ _ => invocation.evaluates_of_error lists known found object,
      fun _ _ _ _ => invocation.evaluates_of_ok lists known found object⟩
  · rintro slots isJoined several ⟨slot, member, blank⟩
    exact invocation.evaluates_of_blank isJoined several member blank found object state
  · exact fun content =>
      ⟨Subject.isArgument_quote content, Context.argumentValue?_quote _ content⟩
  · exact fun content count short small => evaluate_length_of_quote short small object

/-- A comma and a parenthesis in quotes, and a comma in parentheses. With a comma too
much the function is not called. -/
theorem evaluate_invocation_of_nested_commas :
    let counting : ValueFunction (StateM Nat) := fun input => ExceptT.mk fun state =>
      (.ok (.number (.unsigned (UInt64.ofNat input.arguments.length))), state + 1)
    let vocabulary : Vocabulary (StateM Nat) :=
      ⟨OperatorTable.empty.insert "=" (.equals false),
        FunctionTable.empty.insert "f" counting⟩
    vocabulary.operators.symbol? ['='] = some (.equals false) ∧
      ∃ invocation : Invocation, invocation.text = "F\t( \"a,)\",(x,y) )= \"2\"".toList ∧
        Evaluates vocabulary invocation.text .null 0 (.ok true)
          [invocation.functionCall ["\"a,)\"".toList, "(x,y)".toList] .null,
            invocation.operatorCall .null (.number (.unsigned 2))] 1 ∧
        ∃ blank : Invocation, blank.text = "F\t( \"a,)\", )= \"2\"".toList ∧
          Evaluates vocabulary blank.text .null 0 (.error (.wrongArguments "F"))
            [] 0 := by
  intro counting vocabulary
  have found : vocabulary.operators.symbol? ['='] = some (.equals false) := rfl
  have known : vocabulary.functions.get? (String.ofList ['F']) = some counting := rfl
  have named : ['F'].all Subject.isNameCharacter = true := by decide
  let quoted : Subject.Slot :=
    ⟨[' '], quote "a,)".toList, [], rfl, rfl, fun _ => Subject.isArgument_quote _⟩
  have isArgument : Subject.IsArgument (parenthesize "x,y".toList) := by
    have balanced : Balanced "x,y".toList := by decide
    have enclosed := Nesting.isEnclosed_parenthesize balanced
    refine ⟨Term.isTrimmed_parenthesize _, enclosed.uncut balanced.parenthesize ?_⟩
    rintro first ⟨⟩
    decide
  let nested : Subject.Slot :=
    ⟨[], parenthesize "x,y".toList, [' '], rfl, rfl, fun _ => isArgument⟩
  let empty : Subject.Slot := ⟨[' '], [], [], rfl, rfl, fun filled => absurd rfl filled⟩
  let invocation (slots : List Subject.Slot) : Invocation :=
    { name := ⟨['F'], by decide, List.all_eq_true.mp named⟩
      spacing := ['\t'], inner := Subject.Slot.join slots, gap := [], symbol := ['=']
      gap' := [' '], literal := quote ['2'], content := ['2'], noKeyword := rfl
      blankSpacing := rfl, blankGap := rfl, blankGap' := rfl, isLiteral := .quoted ['2'] }
  have filled : ∀ slot ∈ [quoted, nested], slot.text ≠ [] := by
    simp [quoted, nested, quote, parenthesize]
  have two : Value.equalsLiteral (some (.number (.unsigned 2))) (String.ofList ['2']) =
      true := by
    decide +kernel
  have called := ((evaluate_invocation (invocation [quoted, nested]) found .null 0).1 _ _
    (.slots filled) known).2 (.number (.unsigned 2)) 1 (.ok true) 1 rfl
    (congrArg (fun truth => (Except.ok truth, 1)) two)
  have fails := (evaluate_invocation (invocation [quoted, empty]) found .null 0).2.1
    [quoted, empty] rfl (Nat.le_refl 2) ⟨empty, by simp, rfl⟩
  exact ⟨found, invocation [quoted, nested], rfl, called, invocation [quoted, empty], rfl,
    fails⟩

end Criteria
