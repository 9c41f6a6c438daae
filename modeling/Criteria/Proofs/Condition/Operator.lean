import Criteria.Condition.Parts
import Criteria.Proofs.Operator.Table

/-!
The operator of a condition.

A symbol ends where another character follows. Keyword names are looked for in the words
that stand there, longest first, so a name stays what it is if all the words that can
count are there.
-/

namespace Criteria

variable {m : Type → Type}

/-! ## Symbols -/

theorem isPlain_of_isSymbolCharacter {character : Char}
    (isSymbol : isSymbolCharacter character = true) : Term.IsPlain character := by
  have symbols : ("=<>!~^*%&|?".toList.all fun symbol =>
      !isBlank symbol && symbol != '(' && symbol != ')' &&
        symbol != '"') = true := by decide
  have plain := List.all_eq_true.mp symbols character (List.contains_iff_mem.mp isSymbol)
  simp only [Bool.and_eq_true, Bool.not_eq_true', bne_iff_ne] at plain
  rcases plain with ⟨⟨⟨solid, notOpen⟩, notClose⟩, notQuote⟩
  exact ⟨solid, notOpen, notClose, notQuote⟩

theorem isSymbolCharacter_of_isBlank {character : Char}
    (blank : isBlank character = true) :
    isSymbolCharacter character = false := by
  rw [← Bool.not_eq_true]
  intro isSymbol
  rw [(isPlain_of_isSymbolCharacter isSymbol).solid] at blank
  cases blank

theorem Operator.isTrimmed_of_isSymbol {symbol : List Char}
    (symbolic : isSymbol symbol = true) :
    Text.IsTrimmed symbol := by
  rcases isSymbol_iff.mp symbolic with ⟨nonempty, all⟩
  exact Text.isTrimmed_of_solid nonempty fun character member =>
    (isPlain_of_isSymbolCharacter (all character member)).solid

theorem Operator.kind_of_isSymbol {symbol : List Char}
    (symbolic : isSymbol symbol = true) :
    kind (String.ofList symbol) = .symbol := by
  rw [kind_eq_symbol_iff, String.toList_ofList,
    (isTrimmed_of_isSymbol symbolic).trim_eq, symbolic]

theorem Operator.kind_of_noSymbol {text after : List Char} (trimmed : Text.IsTrimmed text)
    (noSymbol : (text ++ after).head?.any isSymbolCharacter = false) :
    kind (String.ofList text) = .keyword := by
  rw [kind_eq_keyword_iff, String.toList_ofList, trimmed.trim_eq, ← Bool.not_eq_true,
    isSymbol_iff]
  rintro ⟨nonempty, all⟩
  rcases List.exists_cons_of_ne_nil nonempty with ⟨first, others, rfl⟩
  rw [List.cons_append, List.head?_cons, Option.any_some,
    all first List.mem_cons_self] at noSymbol
  cases noSymbol

theorem keyword?_eq_none_of_symbol {text : List Char} {character : Char}
    (member : character ∈ text) (isSymbol : isSymbolCharacter character = true) :
    Term.keyword? text = none := by
  have symbols : ("=<>!~^*%&|?".toList.all fun symbol =>
      !"ANDORNOT".toList.contains symbol.toUpper) = true := by decide
  have other := List.all_eq_true.mp symbols character (List.contains_iff_mem.mp isSymbol)
  rw [Bool.not_eq_true', ← Bool.not_eq_true, List.contains_iff_mem] at other
  exact Term.keyword?_eq_none member other

theorem OperatorTable.symbol_of_symbol? {operators : OperatorTable m}
    {operator : Operator m} {symbol : List Char}
    (found : operators.symbol? symbol = some operator) :
    symbol ≠ [] ∧ ∀ character ∈ symbol, isSymbolCharacter character = true :=
  Operator.isSymbol_iff.mp (isSymbol_of_symbol? found)

namespace Condition

/-! ## Phrases -/

theorem phrases_succ {limit : Nat} {text word afterWord blanks next : List Char}
    (wordSpan : text.span (!isBlank ·) = (word, afterWord)) (nonempty : word ≠ [])
    (blankSpan : afterWord.span isBlank = (blanks, next)) :
    phrases (limit + 1) text =
      ⟨word, [word], afterWord⟩ :: (phrases limit next).map fun phrase =>
      ⟨word ++ blanks ++ phrase.text, word :: phrase.words, phrase.after⟩ := by
  simp only [phrases, wordSpan, blankSpan]
  exact if_neg (by simpa using nonempty)

theorem exists_word_of_phrases {limit : Nat} {text : List Char}
    (nonempty : phrases (limit + 1) text ≠ []) :
    ∃ word afterWord, text.span (!isBlank ·) = (word, afterWord) ∧ word ≠ [] := by
  rcases wordSpan : text.span (!isBlank ·) with ⟨word, afterWord⟩
  refine ⟨word, afterWord, rfl, ?_⟩
  rintro rfl
  rw [phrases, wordSpan] at nonempty
  exact nonempty rfl

theorem exists_head_of_mem_phrases {limit : Nat} {text : List Char} {phrase : Phrase}
    (member : phrase ∈ phrases limit text) :
    ∃ word afterWord others, text.span (!isBlank ·) = (word, afterWord) ∧ word ≠ [] ∧
      phrase.words = word :: others := by
  cases limit with
  | zero => cases member
  | succ limit =>
      rcases exists_word_of_phrases (List.ne_nil_of_mem member) with
        ⟨word, afterWord, wordSpan, nonempty⟩
      refine ⟨word, afterWord, ?_⟩
      rw [phrases_succ wordSpan nonempty rfl] at member
      rcases List.mem_cons.mp member with rfl | member
      · exact ⟨[], wordSpan, nonempty, rfl⟩
      · rcases List.mem_map.mp member with ⟨inner, _, rfl⟩
        exact ⟨inner.words, wordSpan, nonempty, rfl⟩

theorem exists_word_of_solid {text : List Char} (nonempty : text ≠ [])
    (solid : ∀ character ∈ text.head?, isBlank character = false) :
    ∃ word afterWord, text.span (!isBlank ·) = (word, afterWord) ∧ word ≠ [] := by
  rcases wordSpan : text.span (!isBlank ·) with ⟨word, afterWord⟩
  refine ⟨word, afterWord, rfl, ?_⟩
  rintro rfl
  rcases Text.span_eq_iff.mp wordSpan with ⟨rfl, _, stops⟩
  cases text with
  | nil => exact nonempty rfl
  | cons first others =>
      have blank := stops first rfl
      simp [solid first rfl] at blank

theorem length_phrases {limit : Nat} {text : List Char} {phrase : Phrase}
    (member : phrase ∈ phrases limit text) (goesOn : Text.allBlank phrase.after = false)
    (short : limit ≤ 2) : (phrases limit text).length = limit := by
  cases limit with
  | zero => rfl
  | succ limit =>
      rcases exists_word_of_phrases (List.ne_nil_of_mem member) with
        ⟨word, afterWord, wordSpan, nonempty⟩
      rcases blankSpan : afterWord.span isBlank with ⟨blanks, next⟩
      rw [phrases_succ wordSpan nonempty blankSpan] at member ⊢
      rw [Text.span_eq_iff] at blankSpan
      rcases blankSpan with ⟨rfl, blank, solid⟩
      match limit, short with
      | 0, _ => rfl
      | 1, _ =>
          have second : next ≠ [] := by
            rintro rfl
            have none : phrases 1 [] = [] := rfl
            rw [none] at member
            cases List.mem_singleton.mp member
            rw [List.append_nil, Text.allBlank, List.all_eq_true.mpr blank] at goesOn
            cases goesOn
          rcases exists_word_of_solid second solid with
            ⟨nextWord, afterNext, nextSpan, named⟩
          rw [phrases_succ nextSpan named rfl]
          rfl

theorem phrases_append {limit : Nat} {text more : List Char}
    (full : (phrases limit text).length = limit)
    (apart : ∀ next ∈ more.head?, isBlank next = true) :
    phrases limit (text ++ more) =
      (phrases limit text).map fun phrase =>
        { phrase with after := phrase.after ++ more } := by
  induction limit generalizing text with
  | zero => rfl
  | succ limit induction =>
      have filled : phrases (limit + 1) text ≠ [] := List.ne_nil_of_length_eq_add_one full
      rcases exists_word_of_phrases filled with ⟨word, afterWord, wordSpan, nonempty⟩
      rcases blankSpan : afterWord.span isBlank with ⟨blanks, next⟩
      have wordSpanMore :
          (text ++ more).span (!isBlank ·) = (word, afterWord ++ more) := by
        rw [Text.span_eq_iff] at wordSpan ⊢
        rcases wordSpan with ⟨rfl, solid, stops⟩
        refine ⟨List.append_assoc .., solid, ?_⟩
        cases afterWord with
        | nil => simpa using apart
        | cons => exact stops
      rw [phrases_succ wordSpan nonempty blankSpan] at full ⊢
      rw [List.length_cons, List.length_map, Nat.add_right_cancel_iff] at full
      cases limit with
      | zero =>
          rw [phrases_succ wordSpanMore nonempty rfl]
          rfl
      | succ limit =>
          have second : next ≠ [] := by
            rintro rfl
            cases full
          rw [phrases_succ wordSpanMore nonempty (Text.span_append blankSpan second more),
            induction full]
          simp

/-! ## Operators -/

variable {operators : OperatorTable m} {operator : Operator m}
  {text operatorText after : List Char}

theorem operator?_of_symbol (found : operators.symbol? operatorText = some operator)
    (stops : ∀ next ∈ after.head?, isSymbolCharacter next = false) :
    operator? operators (operatorText ++ after) =
      some (operatorText, operator, after) := by
  rcases OperatorTable.symbol_of_symbol? found with ⟨nonempty, isSymbol⟩
  have starts : (operatorText ++ after).head?.any isSymbolCharacter = true := by
    rw [List.head?_append_of_ne_nil _ nonempty, List.head?_eq_some_head nonempty]
    exact isSymbol _ (List.head_mem nonempty)
  rw [operator?, if_pos starts]
  simp only [Text.span_eq_iff.mpr ⟨rfl, isSymbol, stops⟩, found]
  rfl

theorem operator?_cases
    (found : operator? operators text = some (operatorText, operator, after)) :
    (text = operatorText ++ after ∧ operators.symbol? operatorText = some operator ∧
        ∀ next ∈ after.head?, isSymbolCharacter next = false) ∨
      (text.head?.any isSymbolCharacter = false ∧
        ∃ phrase ∈ phrases operators.longestKeyword text, phrase.after = after ∧
          operators.keyword? phrase.words = some operator) := by
  unfold operator? at found
  split at found
  · left
    rcases symbolSpan : text.span isSymbolCharacter with ⟨symbol, afterSymbol⟩
    simp only [symbolSpan] at found
    rcases Option.map_eq_some_iff.mp found with ⟨_, isOperator, equal⟩
    cases equal
    rcases Text.span_eq_iff.mp symbolSpan with ⟨rfl, _, stops⟩
    exact ⟨rfl, isOperator, stops⟩
  · right
    rename_i notSymbol
    rcases List.exists_of_findSome?_eq_some found with ⟨phrase, member, isFound⟩
    rcases Option.map_eq_some_iff.mp isFound with ⟨_, isKeyword, equal⟩
    cases equal
    exact ⟨by simpa using notSymbol, phrase, List.mem_reverse.mp member, rfl, isKeyword⟩

theorem ne_nil_of_operator?
    (found : operator? operators text = some (operatorText, operator, after)) :
    text ≠ [] := by
  rintro rfl
  rcases operator?_cases found with ⟨nothing, isSymbol, _⟩ | ⟨_, phrase, member, _⟩
  · exact (OperatorTable.symbol_of_symbol? isSymbol).1
      (List.append_eq_nil_iff.mp nothing.symm).1
  · rcases exists_head_of_mem_phrases member with ⟨_, _, _, wordSpan, nonempty, _⟩
    cases wordSpan
    exact nonempty rfl

theorem operator?_append {more : List Char}
    (found : operator? operators text = some (operatorText, operator, after))
    (goesOn : Text.allBlank after = false) (short : operators.longestKeyword ≤ 2)
    (apart : ∀ next ∈ more.head?, isBlank next = true) :
    operator? operators (text ++ more) =
      some (operatorText, operator, after ++ more) := by
  have nonempty := ne_nil_of_operator? found
  rcases operator?_cases found with
    ⟨rfl, isSymbol, stops⟩ | ⟨notSymbol, phrase, member, rfl, _⟩
  · have ended : after ≠ [] := by
      rintro rfl
      cases goesOn
    rw [List.append_assoc]
    apply operator?_of_symbol isSymbol
    rw [List.head?_append_of_ne_nil _ ended]
    exact stops
  · have full := length_phrases member goesOn short
    rw [operator?, if_neg (by simp [notSymbol])] at found
    rw [operator?, List.head?_append_of_ne_nil _ nonempty, if_neg (by simp [notSymbol]),
      phrases_append full apart, ← List.map_reverse, List.findSome?_map]
    have extended :=
      congrArg (Option.map fun result => (result.1, result.2.1, result.2.2 ++ more)) found
    rw [List.map_findSome?] at extended
    refine Eq.trans ?_ extended
    congr 1
    funext other
    rw [Function.comp_apply, Function.comp_apply, Option.map_map]
    rfl

/-! ## All parts -/

/-- Where the parts of a condition come from. -/
inductive Finds (operators : OperatorTable m) (text : List Char) : Parts m → Prop
  | intro {subject : Subject} {operator : Operator m}
      {subjectText afterSubject operatorText afterOperator literal : List Char}
      (isSubject : Subject.read? text = some (subject, subjectText, afterSubject))
      (isOperator : operator? operators (Text.trimStart afterSubject) =
        some (operatorText, operator, afterOperator))
      (isLiteral : literal? operators (Text.trim afterOperator) = some literal) :
      Finds operators text
        { subject, subjectText, operatorText, literalText := Text.trim afterOperator,
          operator, literal }

theorem finds_of_parts? {parts : Parts m} (found : parts? operators text = some parts) :
    Finds operators text parts := by
  simp only [parts?, Option.bind_eq_bind, Option.bind_eq_some_iff, Prod.exists] at found
  rcases found with ⟨_, _, _, isSubject, _, _, _, isOperator, _, isLiteral, equal⟩
  cases equal
  exact .intro isSubject isOperator isLiteral

end Condition

end Criteria
