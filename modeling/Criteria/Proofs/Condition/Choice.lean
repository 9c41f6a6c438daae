import Criteria.Proofs.Condition.Operator

/-!
The operator that a condition has, described without the search for it.

Where a symbol character stands, the operator is the run of symbol characters there,
which cannot be longer. Everywhere else it has the longest keyword name that the first
words spell. The search looks only at as many words as the longest name in the table
has, and it could as well look at all of them.
-/

namespace Criteria

/-! ## Beginnings with whole words -/

namespace Text

/-- The text is a beginning of `whole` that ends with a word of it. -/
structure Leads (text after whole : List Char) : Prop where
  equal : whole = text ++ after
  trimmed : IsTrimmed text
  stops : ∀ next ∈ after.head?, isBlank next = true

theorem Leads.words_eq {text after whole : List Char} (leads : Leads text after whole) :
    words whole = words text ++ words after := by
  rw [leads.equal]
  cases after with
  | nil =>
      rw [List.append_nil]
      exact (List.append_nil _).symm
  | cons next others =>
      have blank : allBlank [next] = true := by simp [allBlank, leads.stops next rfl]
      have pieces : words (text ++ [next] ++ others) = words text ++ words others :=
        words_append blank (List.cons_ne_nil _ _)
      rw [← List.singleton_append, ← List.append_assoc, pieces]
      exact congrArg _ (words_gap_append blank others).symm

theorem Leads.length_words_lt {text after whole : List Char}
    (leads : Leads text after whole) (longer : after ≠ []) (trimmed : IsTrimmed whole) :
    (words text).length < (words whole).length := by
  rw [leads.words_eq, List.length_append]
  suffices words after ≠ [] by
    have positive := List.length_pos_iff.mpr this
    omega
  have isLast : after.getLast longer ∈ whole.getLast? := by
    rw [leads.equal, List.getLast?_append_of_ne_nil _ longer]
    exact List.getLast?_eq_some_getLast longer
  exact words_ne_nil (List.getLast_mem longer) (trimmed.last _ isLast)

theorem Leads.unique {text after text' after' whole : List Char}
    (leads : Leads text after whole) (leads' : Leads text' after' whole)
    (size : (words text).length = (words text').length) :
    text = text' ∧ after = after' := by
  rcases List.append_eq_append_iff.mp (leads.equal.symm.trans leads'.equal) with
    ⟨between, rfl, rfl⟩ | ⟨between, rfl, rfl⟩
  · cases between with
    | nil => simp
    | cons first others =>
        have inside : Leads text (first :: others) (text ++ first :: others) :=
          ⟨rfl, leads.trimmed, leads.stops⟩
        have more := inside.length_words_lt (List.cons_ne_nil _ _) leads'.trimmed
        omega
  · cases between with
    | nil => simp
    | cons first others =>
        have inside : Leads text' (first :: others) (text' ++ first :: others) :=
          ⟨rfl, leads'.trimmed, leads'.stops⟩
        have more := inside.length_words_lt (List.cons_ne_nil _ _) leads.trimmed
        omega

end Text

open Text (words)

variable {m : Type → Type}

namespace Condition

/-! ## Phrases -/

theorem words_eq_cons {text word afterWord blanks next : List Char}
    (wordSpan : text.span (!isBlank ·) = (word, afterWord)) (nonempty : word ≠ [])
    (blankSpan : afterWord.span isBlank = (blanks, next)) :
    words text = word :: words next := by
  rcases Text.span_eq_iff.mp wordSpan with ⟨equal, solid, stops⟩
  rcases Text.span_eq_iff.mp blankSpan with ⟨rfl, blank, _⟩
  have solid' : ∀ character ∈ word, isBlank character = false := by simpa using solid
  have leads : Text.Leads word (blanks ++ next) text :=
    ⟨equal, Text.isTrimmed_of_solid nonempty solid', by simpa using stops⟩
  rw [leads.words_eq, Text.words_of_solid nonempty solid',
    Text.words_gap_append (List.all_eq_true.mpr blank)]
  rfl

theorem leads_of_mem_phrases {limit : Nat} {text : List Char} {phrase : Phrase}
    (member : phrase ∈ phrases limit text) :
    Text.Leads phrase.text phrase.after text ∧ phrase.words = words phrase.text := by
  induction limit generalizing text phrase with
  | zero => cases member
  | succ limit induction =>
      rcases exists_word_of_phrases (List.ne_nil_of_mem member) with
        ⟨word, afterWord, wordSpan, nonempty⟩
      rcases blankSpan : afterWord.span isBlank with ⟨blanks, next⟩
      rw [phrases_succ wordSpan nonempty blankSpan] at member
      rcases Text.span_eq_iff.mp wordSpan with ⟨rfl, solid, stops⟩
      have solid' : ∀ character ∈ word, isBlank character = false := by simpa using solid
      have trimmed := Text.isTrimmed_of_solid nonempty solid'
      have single := Text.words_of_solid nonempty solid'
      have stops' : ∀ next ∈ afterWord.head?, isBlank next = true := by simpa using stops
      rcases List.mem_cons.mp member with rfl | member
      · exact ⟨⟨rfl, trimmed, stops'⟩, single.symm⟩
      · rcases List.mem_map.mp member with ⟨inner, isInner, rfl⟩
        rcases induction isInner with ⟨leads, wordsEq⟩
        rcases Text.span_eq_iff.mp blankSpan with ⟨rfl, blank, _⟩
        have stops'' : ∀ next ∈ (blanks ++ inner.text).head?, isBlank next = true := by
          rw [leads.equal, ← List.append_assoc,
            List.head?_append_of_ne_nil _ (by simp [leads.trimmed.nonempty])] at stops'
          exact stops'
        have first :
            Text.Leads word (blanks ++ inner.text) (word ++ blanks ++ inner.text) :=
          ⟨List.append_assoc .., trimmed, stops''⟩
        refine ⟨⟨by simp [leads.equal], trimmed.append leads.trimmed blanks, leads.stops⟩,
          ?_⟩
        rw [first.words_eq, single, Text.words_gap_append (List.all_eq_true.mpr blank),
          wordsEq]
        rfl

theorem length_words_of_getElem? {limit index : Nat} {text : List Char} {phrase : Phrase}
    (found : (phrases limit text)[index]? = some phrase) :
    phrase.words.length = index + 1 := by
  induction limit generalizing index text phrase with
  | zero => cases found
  | succ limit induction =>
      rcases exists_word_of_phrases (List.ne_nil_of_mem (List.mem_of_getElem? found)) with
        ⟨word, afterWord, wordSpan, nonempty⟩
      rw [phrases_succ wordSpan nonempty rfl] at found
      cases index with
      | zero =>
          cases found
          rfl
      | succ index =>
          rw [List.getElem?_cons_succ, List.getElem?_map, Option.map_eq_some_iff] at found
          rcases found with ⟨inner, found, rfl⟩
          exact congrArg (· + 1) (induction found)

theorem length_phrases_eq_min {limit : Nat} {text : List Char}
    (solid : ∀ character ∈ text.head?, isBlank character = false) :
    (phrases limit text).length = min limit (words text).length := by
  induction limit generalizing text with
  | zero => exact (Nat.zero_min _).symm
  | succ limit induction =>
      by_cases nonempty : text = []
      · subst nonempty
        rfl
      · rcases exists_word_of_solid nonempty solid with
          ⟨word, afterWord, wordSpan, filled⟩
        rcases blankSpan : afterWord.span isBlank with ⟨blanks, next⟩
        rw [phrases_succ wordSpan filled blankSpan,
          words_eq_cons wordSpan filled blankSpan, List.length_cons, List.length_cons,
          List.length_map, induction (Text.span_eq_iff.mp blankSpan).2.2,
          Nat.add_min_add_right]

theorem take_phrases {limit more : Nat} (smaller : limit ≤ more) (text : List Char) :
    (phrases more text).take limit = phrases limit text := by
  induction limit generalizing more text with
  | zero => exact List.take_zero
  | succ limit induction =>
      rcases Nat.exists_eq_add_of_le' smaller with ⟨extra, rfl⟩
      rw [← Nat.add_assoc]
      simp only [phrases]
      split
      · exact List.take_nil
      · rw [List.take_succ_cons, ← List.map_take, induction (Nat.le_add_left ..)]

/-! ## The longest name -/

/-- The text is the longest keyword name among the first words of `whole`: no more of
its words, of however many there are, spell a name too. -/
structure IsLongestName (operators : OperatorTable m) (whole text : List Char)
    (operator : Operator m) (after : List Char) : Prop where
  leads : Text.Leads text after whole
  found : operators.keyword? (words text) = some operator
  longest : ∀ count, (words text).length < count → count ≤ (words whole).length →
    operators.keyword? ((words whole).take count) = none

def keywordName? (operators : OperatorTable m) (limit : Nat) (text : List Char) :
    Option (List Char × Operator m × List Char) :=
  (phrases limit text).reverse.findSome? fun phrase =>
    (operators.keyword? phrase.words).map fun operator =>
      (phrase.text, operator, phrase.after)

section Search

variable {operators : OperatorTable m} {operator : Operator m} {limit : Nat}
  {whole text after : List Char}

theorem keyword?_take_eq_none {count : Nat} (more : operators.longestKeyword < count)
    (within : count ≤ (words whole).length) :
    operators.keyword? ((words whole).take count) = none := by
  cases found : operators.keyword? ((words whole).take count) with
  | none => rfl
  | some operator =>
      have solid : ∀ word ∈ (words whole).take count, ∀ character ∈ word,
          isBlank character = false :=
        fun word member => Text.solid_of_mem_words (List.mem_of_mem_take member)
      have bound := operators.length_le_longestKeyword found solid
      rw [List.length_take_of_le within] at bound
      omega

theorem exists_phrase {count : Nat}
    (solid : ∀ character ∈ whole.head?, isBlank character = false)
    (within : count < min limit (words whole).length) :
    ∃ phrase, (phrases limit whole)[count]? = some phrase ∧
      Text.Leads phrase.text phrase.after whole ∧
      phrase.words = words phrase.text ∧
      phrase.words = (words whole).take (count + 1) := by
  rw [← length_phrases_eq_min solid] at within
  have found := List.getElem?_eq_getElem within
  rcases leads_of_mem_phrases (List.mem_of_getElem? found) with ⟨leads, wordsEq⟩
  refine ⟨_, found, leads, wordsEq, ?_⟩
  rw [← length_words_of_getElem? found, wordsEq, leads.words_eq, List.take_left]

theorem isLongestName_of_keywordName? (enough : operators.longestKeyword ≤ limit)
    (solid : ∀ character ∈ whole.head?, isBlank character = false)
    (found : keywordName? operators limit whole = some (text, operator, after)) :
    IsLongestName operators whole text operator after := by
  rcases List.findSome?_eq_some_iff.mp found with
    ⟨longer, phrase, shorter, split, isFound, none⟩
  rcases Option.map_eq_some_iff.mp isFound with ⟨_, isName, equal⟩
  cases equal
  rw [List.reverse_eq_iff, List.reverse_append, List.reverse_cons,
    List.append_assoc] at split
  have isPhrase : (phrases limit whole)[shorter.length]? = some phrase := by
    rw [split]
    simp
  rcases leads_of_mem_phrases (List.mem_of_getElem? isPhrase) with ⟨leads, wordsEq⟩
  have size := length_words_of_getElem? isPhrase
  rw [wordsEq] at isName size
  refine ⟨leads, isName, fun count more within => ?_⟩
  rcases Nat.lt_or_ge operators.longestKeyword count with tooLong | fits
  · exact keyword?_take_eq_none tooLong within
  · -- The phrase of so many words was looked at before.
    rcases Nat.exists_eq_add_of_lt more with ⟨extra, rfl⟩
    rcases @exists_phrase limit whole ((words phrase.text).length + extra) solid
      (by omega) with
      ⟨other, isOther, _, _, isTake⟩
    rw [← isTake]
    have place :
        (words phrase.text).length + extra = shorter.reverse.length + (extra + 1) := by
      rw [size, List.length_reverse]
      omega
    rw [split, place, List.getElem?_append_right (Nat.le_add_right ..),
      Nat.add_sub_cancel_left, List.singleton_append, List.getElem?_cons_succ] at isOther
    have member : other ∈ longer := List.mem_reverse.mp (List.mem_of_getElem? isOther)
    simpa using none other member

theorem IsLongestName.length_le {text' after' : List Char} {operator' : Operator m}
    (isLongest : IsLongestName operators whole text operator after)
    (isLongest' : IsLongestName operators whole text' operator' after') :
    (words text').length ≤ (words text).length := by
  by_contra more
  have within : (words text').length ≤ (words whole).length := by
    rw [isLongest'.leads.words_eq, List.length_append]
    exact Nat.le_add_right ..
  have none := isLongest.longest _ (Nat.lt_of_not_le more) within
  rw [isLongest'.leads.words_eq, List.take_left, isLongest'.found] at none
  cases none

theorem IsLongestName.unique {text' after' : List Char} {operator' : Operator m}
    (isLongest : IsLongestName operators whole text operator after)
    (isLongest' : IsLongestName operators whole text' operator' after') :
    (text, operator, after) = (text', operator', after') := by
  have size :=
    Nat.le_antisymm (isLongest'.length_le isLongest) (isLongest.length_le isLongest')
  rcases isLongest.leads.unique isLongest'.leads size with ⟨rfl, rfl⟩
  cases isLongest.found.symm.trans isLongest'.found
  rfl

theorem keywordName?_eq_some_iff (enough : operators.longestKeyword ≤ limit)
    (solid : ∀ character ∈ whole.head?, isBlank character = false) :
    keywordName? operators limit whole = some (text, operator, after) ↔
      IsLongestName operators whole text operator after := by
  refine ⟨isLongestName_of_keywordName? enough solid, fun isLongest => ?_⟩
  have bound : (words text).length ≤ operators.longestKeyword :=
    operators.length_le_longestKeyword isLongest.found fun _ => Text.solid_of_mem_words
  have size : (words whole).length = (words text).length + (words after).length := by
    rw [isLongest.leads.words_eq, List.length_append]
  rcases Nat.exists_eq_add_one.mpr (isLongest.leads.trimmed.length_words_pos) with
    ⟨count, isCount⟩
  rcases @exists_phrase limit whole count solid (by omega) with
    ⟨phrase, isPhrase, _, _, isTake⟩
  have isName : operators.keyword? phrase.words = some operator := by
    rw [isTake, ← isCount, isLongest.leads.words_eq, List.take_left]
    exact isLongest.found
  have isSome : (keywordName? operators limit whole).isSome = true := by
    rw [keywordName?, List.findSome?_isSome_iff]
    exact ⟨phrase, List.mem_reverse.mpr (List.mem_of_getElem? isPhrase), by simp [isName]⟩
  rcases Option.isSome_iff_exists.mp isSome with ⟨⟨text', operator', after'⟩, found⟩
  rw [found, (isLongestName_of_keywordName? enough solid found).unique isLongest]

/-- To look at as many words as the longest name in the table has is to look at all
words. -/
theorem keywordName?_longestKeyword
    (solid : ∀ character ∈ whole.head?, isBlank character = false) :
    keywordName? operators operators.longestKeyword whole =
      keywordName? operators (words whole).length whole := by
  rcases Nat.le_total operators.longestKeyword (words whole).length with fewer | more
  · apply Option.ext
    rintro ⟨text, operator, after⟩
    rw [keywordName?_eq_some_iff (Nat.le_refl _) solid,
      keywordName?_eq_some_iff fewer solid]
  · rw [keywordName?, keywordName?, ← take_phrases more whole, List.take_of_length_le]
    rw [length_phrases_eq_min solid]
    exact Nat.min_le_right ..

end Search

/-! ## The operator -/

/-- The text starts with this operator, and `after` follows it: a run of symbol
characters, as long as it can be, or else the longest keyword name. -/
inductive Chooses (operators : OperatorTable m) : List Char → List Char → Operator m →
    List Char → Prop
  | symbol {symbol after : List Char} {operator : Operator m}
      (isSymbol : ∀ character ∈ symbol, isSymbolCharacter character = true)
      (nonempty : symbol ≠ [])
      (stops : ∀ next ∈ after.head?, isSymbolCharacter next = false)
      (found : operators.symbol? symbol = some operator) :
      Chooses operators (symbol ++ after) symbol operator after
  | keyword {whole text after : List Char} {operator : Operator m}
      (noSymbol : whole.head?.any isSymbolCharacter = false)
      (isLongest : IsLongestName operators whole text operator after) :
      Chooses operators whole text operator after

section Operator

variable {operators : OperatorTable m} {operator : Operator m}
  {whole text after : List Char}

theorem operator?_eq_keywordName?
    (noSymbol : whole.head?.any isSymbolCharacter = false) :
    operator? operators whole =
      keywordName? operators operators.longestKeyword whole := by
  rw [operator?, if_neg (by simp [noSymbol])]
  rfl

/-- The operator that is found is the one described, and no other. -/
theorem operator?_eq_some_iff
    (solid : ∀ character ∈ whole.head?, isBlank character = false) :
    operator? operators whole = some (text, operator, after) ↔
      Chooses operators whole text operator after := by
  constructor
  · intro found
    rcases operator?_cases found with ⟨rfl, isSymbol, stops⟩ | ⟨noSymbol, _⟩
    · have symbol := OperatorTable.symbol_of_symbol? isSymbol
      exact .symbol symbol.2 symbol.1 stops isSymbol
    · rw [operator?_eq_keywordName? noSymbol] at found
      exact .keyword noSymbol ((keywordName?_eq_some_iff (Nat.le_refl _) solid).mp found)
  · intro chooses
    cases chooses with
    | symbol _ _ stops found => exact operator?_of_symbol found stops
    | keyword noSymbol isLongest =>
        rw [operator?_eq_keywordName? noSymbol]
        exact (keywordName?_eq_some_iff (Nat.le_refl _) solid).mpr isLongest

theorem Chooses.equal (chooses : Chooses operators whole text operator after) :
    whole = text ++ after := by
  cases chooses with
  | symbol => rfl
  | keyword _ isLongest => exact isLongest.leads.equal

end Operator

end Condition

end Criteria
