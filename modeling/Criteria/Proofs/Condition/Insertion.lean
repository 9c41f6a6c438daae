import Criteria.Proofs.Condition.Front
import Criteria.Proofs.Condition.Reserved
import Criteria.Proofs.Operator.Insertion

/-!
What another operator in the table does to the conditions that are taken apart already.

The subject is read without the table. The operator that was chosen stays, with the
operator of the table behind it, unless it is a keyword name and the added one spells
more of the words there. The literal stays unless it is several words and the added name
reserves one of them. There is nothing else that a name can do to a condition.
-/

namespace Criteria

open Text (words)

variable {m : Type → Type} {operators : OperatorTable m} {operator : Operator m}
  {name : String}

namespace Condition

/-! ## The operator -/

/-- The keywords of the name are the first words of a text, in any letter case, and more
words than the keyword operator there has. -/
structure Lengthens (name : String) (operatorText whole : List Char) : Prop where
  isKeyword : Operator.kind name = .keyword
  wasKeyword : Operator.kind (String.ofList operatorText) = .keyword
  more : (words operatorText).length < (words name.toList).length
  spelled : (words name.toList).map Text.upper <+: (words whole).map Text.upper

section Choice

variable {whole text after : List Char}

theorem length_eq_of_upper {left right : List (List Char)}
    (same : left.map Text.upper = right.map Text.upper) : left.length = right.length := by
  simpa using congrArg List.length same

theorem keyword?_take_insert (added : Operator m) (count : Nat) :
    (operators.insert name added).keyword? ((words whole).take count) =
      if Operator.kind name = .keyword ∧
        (words name.toList).map Text.upper = ((words whole).take count).map Text.upper
      then some added else operators.keyword? ((words whole).take count) :=
  OperatorTable.keyword?_insert
    (fun _ member => Text.ne_nil_of_mem_words (List.mem_of_mem_take member))
    fun _ member => Text.solid_of_mem_words (List.mem_of_mem_take member)

theorem Chooses.insert (chooses : Chooses operators whole text operator after)
    (notLonger : ¬ Lengthens name text whole) (added : Operator m) :
    Chooses (operators.insert name added) whole text
      (if Operator.normalize name = Operator.normalize (String.ofList text) then added
        else operator) after := by
  cases chooses with
  | symbol isSymbol nonempty stops found =>
      have symbolic := Operator.isSymbol_iff.mpr ⟨nonempty, isSymbol⟩
      refine .symbol isSymbol nonempty stops ?_
      rw [← OperatorTable.get?_ofList_of_isSymbol symbolic] at found ⊢
      rw [OperatorTable.get?_insert, found]
      split <;> rfl
  | keyword noSymbol isLongest =>
      rcases isLongest with ⟨leads, found, longest⟩
      have wasKeyword := Operator.kind_of_noSymbol leads.trimmed (leads.equal ▸ noSymbol)
      have sameName (table : OperatorTable m) :
          table.get? (String.ofList text) = table.keyword? (words text) := by
        rw [table.get?_of_keyword wasKeyword, String.toList_ofList]
      refine .keyword noSymbol ⟨leads, ?_, fun count more within => ?_⟩
      · rw [← sameName] at found ⊢
        rw [OperatorTable.get?_insert, found]
        split <;> rfl
      · rw [keyword?_take_insert, if_neg, longest count more within]
        rintro ⟨isKeyword, spelled⟩
        refine notLonger ⟨isKeyword, wasKeyword, ?_, ?_⟩
        · have size := length_eq_of_upper spelled
          rw [List.length_take_of_le within] at size
          omega
        · rw [spelled, List.map_take]
          exact List.take_prefix ..

theorem Chooses.exists_insert (chooses : Chooses operators whole text operator after)
    (longer : Lengthens name text whole) (added : Operator m) :
    ∃ text' after', (words text').map Text.upper = (words name.toList).map Text.upper ∧
      Chooses (operators.insert name added) whole text' added after' := by
  rcases longer with ⟨isKeyword, wasKeyword, more, spelled⟩
  cases chooses with
  | symbol isSymbol nonempty =>
      have isSymbol :=
        Operator.kind_of_isSymbol (Operator.isSymbol_iff.mpr ⟨nonempty, isSymbol⟩)
      cases isSymbol.symm.trans wasKeyword
  | keyword noSymbol isLongest =>
      rcases isLongest with ⟨leads, found, longest⟩
      have within := spelled.length_le
      rw [List.length_map, List.length_map] at within
      have solid : ∀ character ∈ whole.head?, isBlank character = false := by
        intro character isHead
        rw [leads.equal, List.head?_append_of_ne_nil _ leads.trimmed.nonempty] at isHead
        exact leads.trimmed.head character isHead
      rcases Nat.exists_eq_add_of_lt more with ⟨extra, size⟩
      rcases @exists_phrase (words name.toList).length whole
        ((words text).length + extra) solid
        (by omega) with ⟨phrase, _, leads', wordsEq, isTake⟩
      have isName :
          (words name.toList).map Text.upper = (words phrase.text).map Text.upper := by
        rw [← wordsEq, isTake, ← size, List.map_take, List.prefix_iff_eq_take.mp spelled,
          List.length_map]
      refine ⟨phrase.text, phrase.after, isName.symm, .keyword noSymbol ⟨leads', ?_, ?_⟩⟩
      · rw [OperatorTable.keyword?_insert (fun _ => Text.ne_nil_of_mem_words) fun _ =>
          Text.solid_of_mem_words, if_pos ⟨isKeyword, isName⟩]
      · intro count more' within'
        have size' := length_eq_of_upper isName
        rw [keyword?_take_insert, if_neg, longest count (by omega) within']
        rintro ⟨_, spelled'⟩
        have size'' := length_eq_of_upper spelled'
        rw [List.length_take_of_le within'] at size''
        omega

end Choice

/-! ## The literal -/

/-- The name reserves the word: it is the first keyword of the name, in any letter
case, or the name is a symbol and stands in the word with no other symbol character
next to it. -/
inductive ReservedBy (name : String) (word : List Char) : Prop
  | keyword {first : List Char} (isKeyword : Operator.kind name = .keyword)
      (isFirst : first ∈ (words name.toList).head?)
      (spelled : Text.caseless word first = true)
  | symbol {before after : List Char} (isSymbol : Operator.kind name = .symbol)
      (equal : word = before ++ Text.trim name.toList ++ after)
      (starts : ∀ character ∈ before.getLast?, isSymbolCharacter character = false)
      (stops : ∀ character ∈ after.head?, isSymbolCharacter character = false)

theorem ReservedBy.congr {name' : String} {word : List Char}
    (reserved : ReservedBy name word)
    (same : Operator.normalize name = Operator.normalize name') :
    ReservedBy name' word := by
  have sameKind := Operator.kind_eq_of_normalize_eq same
  cases reserved with
  | @keyword first isKeyword isFirst spelled =>
      have sameFirst :=
        congrArg List.head? (Operator.upper_words_of_normalize_eq isKeyword same)
      rw [List.head?_map, List.head?_map, Option.mem_def.mp isFirst] at sameFirst
      rcases Option.map_eq_some_iff.mp sameFirst.symm with ⟨first', isFirst', sameWord⟩
      rw [Text.caseless_iff, ← sameWord, ← Text.caseless_iff] at spelled
      exact .keyword (sameKind ▸ isKeyword) isFirst' spelled
  | symbol isSymbol equal starts stops =>
      rw [Operator.trim_of_normalize_eq isSymbol same] at equal
      exact .symbol (sameKind ▸ isSymbol) equal starts stops

theorem reserves_iff {word : List Char} :
    Reserves operators word ↔ Text.caseless word "NOT".toList = true ∨
      ∃ name, operators.contains name = true ∧ ReservedBy name word := by
  constructor
  · rintro (isNegation | @⟨name, _, contained, isKeyword, isFirst, spelled⟩ |
      @⟨before, symbol, after, equal, symbolic, contained, starts, stops⟩)
    · exact .inl isNegation
    · exact .inr ⟨name, contained, .keyword isKeyword isFirst spelled⟩
    · have isSymbol := Operator.kind_of_isSymbol symbolic
      refine .inr ⟨String.ofList symbol, contained, .symbol isSymbol ?_ starts stops⟩
      rw [String.toList_ofList, (Operator.isTrimmed_of_isSymbol symbolic).trim_eq, equal]
  · rintro (isNegation | ⟨name, contained, ⟨isKeyword, isFirst, spelled⟩ |
      ⟨isSymbol, equal, starts, stops⟩⟩)
    · exact .negation isNegation
    · exact .keyword contained isKeyword isFirst spelled
    · have symbolic := Operator.kind_eq_symbol_iff.mp isSymbol
      have trimmed := (Operator.isTrimmed_of_isSymbol symbolic).trim_eq
      have isTrimmed : Operator.normalize (String.ofList (Text.trim name.toList)) =
          Operator.normalize name := by
        rw [Operator.normalize, Operator.normalize, String.toList_ofList, trimmed]
      refine .symbol equal symbolic ?_ starts stops
      rw [OperatorTable.contains, OperatorTable.get?, isTrimmed]
      exact contained

theorem reserves_insert_iff {added : Operator m} {word : List Char} :
    Reserves (operators.insert name added) word ↔
      Reserves operators word ∨ ReservedBy name word := by
  rw [reserves_iff, reserves_iff, or_assoc]
  refine or_congr_right ⟨?_, ?_⟩
  · rintro ⟨other, contained, reserved⟩
    rcases OperatorTable.contains_insert.mp contained with before | same
    · exact .inl ⟨other, before, reserved⟩
    · exact .inr (reserved.congr same.symm)
  · rintro (⟨other, contained, reserved⟩ | reserved)
    · exact ⟨other, OperatorTable.contains_insert.mpr (.inl contained), reserved⟩
    · exact ⟨name, OperatorTable.contains_insert.mpr (.inr rfl), reserved⟩

/-- The literal is written in several words without quotes, and the name reserves
one of them. -/
structure ReservesWord (name : String) (literalText : List Char) : Prop where
  noQuote : literalText.head? ≠ some '"'
  several : 2 ≤ (words literalText).length
  reserved : ∃ word ∈ words literalText, ReservedBy name word

section Literal

variable {text literal : List Char}

theorem literal?_insert_eq_none (trimmed : Text.IsTrimmed text)
    (reserves : ReservesWord name text) (added : Operator m) :
    literal? (operators.insert name added) text = none := by
  rcases reserves with ⟨noQuote, several, word, member, reserved⟩
  rw [literal?_eq_none_iff trimmed.trim_eq noQuote]
  exact .inr (.inr ⟨several, word, member, reserves_insert_iff.mpr (.inr reserved)⟩)

theorem literal?_insert_eq (trimmed : Text.IsTrimmed text)
    (accepted : literal? operators text = some literal) (free : ¬ ReservesWord name text)
    (added : Operator m) :
    literal? (operators.insert name added) text = some literal := by
  have nonempty : ¬ text.isEmpty = true := by simpa using trimmed.nonempty
  by_cases isQuote : text.head? = some '"'
  · rw [literal?, if_neg nonempty, if_pos isQuote] at accepted ⊢
    exact accepted
  · cases found : literal? (operators.insert name added) text with
    | some literal' =>
        rw [eq_joinWords_of_literal? trimmed isQuote found,
          eq_joinWords_of_literal? trimmed isQuote accepted]
    | none =>
        -- What makes it no literal now would have done so before, or it is the added
        -- name.
        have rejected : literal? operators text = none := by
          rw [literal?_eq_none_iff trimmed.trim_eq isQuote] at found ⊢
          refine found.imp_right (Or.imp_right ?_)
          rintro ⟨several, word, member, reserved⟩
          rcases reserves_insert_iff.mp reserved with before | byName
          · exact ⟨several, word, member, before⟩
          · exact absurd ⟨isQuote, several, word, member, byName⟩ free
        rw [rejected] at accepted
        cases accepted

end Literal

/-! ## Conditions -/

theorem Lengthens.congr {text whole whole' : List Char}
    (longer : Lengthens name text whole) (same : words whole = words whole') :
    Lengthens name text whole' :=
  ⟨longer.isKeyword, longer.wasKeyword, longer.more, same ▸ longer.spelled⟩

theorem subject_eq_of_parts? {operators' : OperatorTable m} {text : List Char}
    {parts parts' : Parts m} (found : parts? operators text = some parts)
    (found' : parts? operators' text = some parts') :
    parts'.subject = parts.subject ∧ parts'.subjectText = parts.subjectText := by
  rcases finds_of_parts? found with ⟨isSubject, _, _⟩
  rcases finds_of_parts? found' with ⟨isSubject', _, _⟩
  cases isSubject.symm.trans isSubject'
  exact ⟨rfl, rfl⟩

variable [Monad m]

def IsMalformed (operators : OperatorTable m) (condition : String) : Prop :=
  ∀ functions context, evaluate ⟨operators, functions⟩ context condition =
    throw (.malformedCondition (String.ofList (Text.trim condition.toList)))

theorem isMalformed_of_parts?_eq_none {condition : String}
    (none : parts? operators (Text.trim condition.toList) = none) :
    IsMalformed operators condition :=
  fun functions => @evaluate_of_parts?_eq_none m _ ⟨operators, functions⟩ condition none

/-- What a condition with these parts, and with `following` behind the subject, becomes
when an operator is added to the table. -/
structure InsertionEffect (operators : OperatorTable m) (name : String)
    (added : Operator m) (condition : String) (parts : Parts m) (following : List Char) :
    Prop where
  subject : ∀ parts', parts? (operators.insert name added) (Text.trim condition.toList) =
      some parts' → parts'.subject = parts.subject ∧
        parts'.subjectText = parts.subjectText
  lengthened : Lengthens name parts.operatorText following →
    ∃ gap operatorText after, Text.allBlank gap = true ∧
      following = gap ++ (operatorText ++ after) ∧
      (words operatorText).map Text.upper = (words name.toList).map Text.upper ∧
      parts? (operators.insert name added) (Text.trim condition.toList) =
        ((literal? (operators.insert name added) (Text.trim after)).map fun literal =>
          ⟨parts.subject, parts.subjectText, operatorText, Text.trim after, added,
            literal⟩) ∧
      (literal? (operators.insert name added) (Text.trim after) = none →
        IsMalformed (operators.insert name added) condition)
  reserved : ¬ Lengthens name parts.operatorText following →
    ReservesWord name parts.literalText →
      IsMalformed (operators.insert name added) condition
  kept : ¬ Lengthens name parts.operatorText following →
    ¬ ReservesWord name parts.literalText →
    parts? (operators.insert name added) (Text.trim condition.toList) = some { parts with
      operator :=
        if Operator.normalize name = Operator.normalize (String.ofList parts.operatorText)
        then added else parts.operator }
  unchanged : Operator.kind (String.ofList parts.operatorText) = .symbol →
    parts.literalText.head? = some '"' ∨ (words parts.literalText).length = 1 →
    Operator.normalize name ≠ Operator.normalize (String.ofList parts.operatorText) →
    ∀ functions context,
      evaluate ⟨operators.insert name added, functions⟩ context condition =
      evaluate ⟨operators, functions⟩ context condition

/-- Adding an operator changes a condition in no other way than these. -/
theorem insertionEffect {condition : String} {parts : Parts m} {following : List Char}
    (isParts : parts? operators (Text.trim condition.toList) = some parts)
    (split : Text.trim condition.toList = parts.subjectText ++ following) (name : String)
    (added : Operator m) :
    InsertionEffect operators name added condition parts following := by
  have decomposes := (parts?_eq_some_iff condition.toList).mp isParts
  rcases decomposes.exists_rest with
    ⟨gap, whole, after, blank, equal, chooses, isRest, partsOf⟩
  cases List.append_cancel_left (split.symm.trans equal)
  have stays (notLonger : ¬ Lengthens name parts.operatorText (gap ++ whole)) :=
    partsOf _ _ _ _ (chooses.insert (fun longer => notLonger (longer.congr
      (Text.words_gap_append blank whole).symm)) added)
  have kept (notLonger : ¬ Lengthens name parts.operatorText (gap ++ whole))
      (free : ¬ ReservesWord name parts.literalText) :
      parts? (operators.insert name added) (Text.trim condition.toList) =
        some { parts with
          operator :=
            if Operator.normalize name =
                Operator.normalize (String.ofList parts.operatorText)
            then added else parts.operator } := by
    rw [stays notLonger, isRest,
      literal?_insert_eq decomposes.isTrimmed decomposes.isLiteral free added,
      Option.map_some]
  refine ⟨fun _ => subject_eq_of_parts? isParts, fun longer => ?_,
    fun notLonger reserves => ?_, kept, fun isSymbol simple other functions context => ?_⟩
  · rcases chooses.exists_insert (longer.congr (Text.words_gap_append blank whole))
      added with
      ⟨text, after', spelled, chooses'⟩
    have isParts' := partsOf _ _ _ _ chooses'
    refine ⟨gap, text, after', blank, congrArg _ chooses'.equal, spelled, isParts',
      fun none => ?_⟩
    exact isMalformed_of_parts?_eq_none (isParts'.trans (by rw [none, Option.map_none]))
  · refine isMalformed_of_parts?_eq_none ?_
    rw [stays notLonger, isRest,
      literal?_insert_eq_none decomposes.isTrimmed reserves added, Option.map_none]
  · have notLonger :
        ¬ Lengthens name parts.operatorText (gap ++ whole) := fun longer => by
      cases isSymbol.symm.trans longer.wasKeyword
    have free : ¬ ReservesWord name parts.literalText := by
      rintro ⟨noQuote, several, _⟩
      rcases simple with isQuote | single
      · exact noQuote isQuote
      · omega
    have same := kept notLonger free
    rw [if_neg other] at same
    rw [evaluate, evaluate, same, isParts]

theorem insertionEffect_of_nested_names :
    let operators : OperatorTable Id :=
      OperatorTable.empty.insert "starts" (Operator.is false)
    let parts : Parts Id := ⟨.path ['a'], ['a'], "starts".toList, "with any x".toList,
      Operator.is false, "with any x".toList⟩
    let following := " starts with any x".toList
    parts? operators (Text.trim "a starts with any x".toList) = some parts ∧
      Text.trim "a starts with any x".toList = parts.subjectText ++ following ∧
      Lengthens "Starts\twith" parts.operatorText following ∧
      InsertionEffect operators "Starts\twith"
        (Operator.isIn true) "a starts with any x" parts following ∧
      IsMalformed (operators.insert "ANY of" (Operator.isIn true))
        "a starts with any x" := by
  intro operators parts following
  have isParts : parts? operators (Text.trim "a starts with any x".toList) = some parts :=
    rfl
  have split :
      Text.trim "a starts with any x".toList = parts.subjectText ++ following := by
    decide
  have longer : Lengthens "Starts\twith" parts.operatorText following :=
    ⟨by decide, by decide, by decide, by decide⟩
  have lengthened := insertionEffect isParts split "Starts\twith" (Operator.isIn true)
  have reserved := insertionEffect isParts split "ANY of" (Operator.isIn true)
  refine ⟨isParts, split, longer, lengthened, reserved.reserved ?_ ?_⟩
  · rintro ⟨_, _, _, spelled⟩
    exact absurd spelled (by decide)
  · exact ⟨by decide, by decide, "any".toList, by decide,
      .keyword (by decide) rfl (by decide)⟩

end Condition

end Criteria
