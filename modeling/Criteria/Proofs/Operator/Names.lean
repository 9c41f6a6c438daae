import Criteria.Operator.Table
import Criteria.Proofs.Term.Keyword
import Criteria.Proofs.Text.Blank

/-!
Normal forms of the names of operators.

A symbol is its own normal form. The keywords of any other name, in capital letters and
one space apart, never spell a symbol: of one word they are the word, which is no
symbol either, and of several they have a space between them. So a normal form tells
the kind of its names.
-/

namespace Criteria

theorem isSymbolCharacter_toUpper (character : Char) :
    isSymbolCharacter character.toUpper = isSymbolCharacter character := by
  have upperNat := Term.toNat_toUpper character
  simp only [Char.toNat_val] at upperNat
  rw [Bool.eq_iff_iff]
  simp only [isSymbolCharacter, List.contains_iff_mem]
  simp only [String.reduceToList, List.mem_cons, List.not_mem_nil, or_false, Char.ext_iff,
    ← UInt32.toNat_inj, Char.toNat_val, Char.reduceToNat, upperNat]
  split
  · omega
  · rfl

theorem toUpper_of_isSymbolCharacter {character : Char}
    (isSymbol : isSymbolCharacter character = true) : character.toUpper = character := by
  have symbols : ("=<>!~^*%&|?".toList.all fun symbol => symbol.toUpper == symbol) =
      true := by
    decide
  exact eq_of_beq
    (List.all_eq_true.mp symbols character (List.contains_iff_mem.mp isSymbol))

theorem Text.upper_upper (text : List Char) : upper (upper text) = upper text := by
  rw [upper, upper, List.map_map]
  exact List.map_congr_left fun character _ => Term.toUpper_toUpper character

namespace Operator

theorem isSymbol_iff {name : List Char} :
    isSymbol name = true ↔
      name ≠ [] ∧ ∀ character ∈ name, isSymbolCharacter character = true := by
  simp [isSymbol]

theorem isSymbol_upper (name : List Char) :
    isSymbol (Text.upper name) = isSymbol name := by
  simp [isSymbol, Text.upper, Function.comp_def, isSymbolCharacter_toUpper]

theorem upper_of_isSymbol {symbol : List Char} (symbolic : isSymbol symbol = true) :
    Text.upper symbol = symbol := by
  have unchanged : ∀ character ∈ symbol,
      character.toUpper = character := fun character member =>
    toUpper_of_isSymbolCharacter ((isSymbol_iff.mp symbolic).2 character member)
  rw [Text.upper, List.map_congr_left unchanged, List.map_id']

/-! ## Keywords -/

theorem toList_joinKeywords_singleton (word : List Char) :
    (joinKeywords [word]).toList = Text.upper word := by
  rw [joinKeywords, String.toList_ofList, Text.joinWords, List.map_singleton,
    List.intercalate_singleton]

theorem toList_joinKeywords_cons (word next : List Char) (words : List (List Char)) :
    (joinKeywords (word :: next :: words)).toList =
      Text.upper word ++ ' ' :: (joinKeywords (next :: words)).toList := by
  rw [joinKeywords, joinKeywords, String.toList_ofList, String.toList_ofList,
    List.map_cons, List.map_cons, Text.joinWords, List.intercalate_cons_cons,
    List.append_assoc]
  rfl

theorem toUpper_mem_joinKeywords {words : List (List Char)} {word : List Char}
    {character : Char} (member : word ∈ words) (inWord : character ∈ word) :
    character.toUpper ∈ (joinKeywords words).toList := by
  induction words with
  | nil => cases member
  | cons first words induction =>
      have inUpper : word = first → character.toUpper ∈ Text.upper first := by
        rintro rfl
        exact List.mem_map_of_mem inWord
      cases words with
      | nil =>
          rw [toList_joinKeywords_singleton]
          exact inUpper (List.mem_singleton.mp member)
      | cons next others =>
          rw [toList_joinKeywords_cons, List.mem_append, List.mem_cons]
          rcases List.mem_cons.mp member with isFirst | member
          · exact .inl (inUpper isFirst)
          · exact .inr (.inr (induction member))

theorem splitWhere_upper {word : List Char}
    (solid : ∀ character ∈ word, isBlank character = false) :
    Text.splitWhere (· == ' ') (Text.upper word) = [Text.upper word] := by
  apply Text.splitWhere_of_solid
  intro character member
  rcases List.mem_map.mp member with ⟨lower, inWord, rfl⟩
  apply beq_eq_false_iff_ne.mpr
  intro isSpace
  have blank := Term.isBlank_toUpper lower
  rw [isSpace, solid lower inWord] at blank
  cases blank

theorem keywords_joinKeywords_singleton {word : List Char}
    (solid : ∀ character ∈ word, isBlank character = false) :
    keywords (joinKeywords [word]) = [Text.upper word] := by
  rw [keywords, toList_joinKeywords_singleton, splitWhere_upper solid]

theorem keywords_joinKeywords_cons {word : List Char} (next : List Char)
    (words : List (List Char)) (solid : ∀ character ∈ word, isBlank character = false) :
    keywords (joinKeywords (word :: next :: words)) =
      Text.upper word :: keywords (joinKeywords (next :: words)) := by
  rw [keywords, toList_joinKeywords_cons, Text.splitWhere_append rfl,
    splitWhere_upper solid]
  rfl

theorem head?_keywords_joinKeywords {word : List Char} {words : List (List Char)}
    (solid : ∀ character ∈ word, isBlank character = false) :
    (keywords (joinKeywords (word :: words))).head? = some (Text.upper word) := by
  cases words with
  | nil => rw [keywords_joinKeywords_singleton solid, List.head?_cons]
  | cons next others => rw [keywords_joinKeywords_cons next others solid, List.head?_cons]

theorem length_keywords_joinKeywords {words : List (List Char)}
    (solid : ∀ word ∈ words, ∀ character ∈ word, isBlank character = false) :
    (keywords (joinKeywords words)).length = max 1 words.length := by
  induction words with
  | nil => rfl
  | cons word words induction =>
      rw [List.forall_mem_cons] at solid
      cases words with
      | nil =>
          rw [keywords_joinKeywords_singleton solid.1]
          rfl
      | cons next others =>
          rw [keywords_joinKeywords_cons next others solid.1, List.length_cons,
            induction solid.2]
          simp

theorem exists_word_of_isSymbol {words : List (List Char)}
    (symbolic : isSymbol (joinKeywords words).toList = true) :
    ∃ word, words = [word] ∧ isSymbol word = true := by
  match words with
  | [] => cases symbolic
  | [word] =>
      rw [toList_joinKeywords_singleton, isSymbol_upper] at symbolic
      exact ⟨word, rfl, symbolic⟩
  | word :: next :: others =>
      rw [toList_joinKeywords_cons] at symbolic
      cases (isSymbol_iff.mp symbolic).2 ' ' (by simp)

/-! ## Normal forms -/

theorem kind_eq_symbol_iff {name : String} :
    kind name = .symbol ↔ isSymbol (Text.trim name.toList) = true := by
  simp [kind]

theorem kind_eq_keyword_iff {name : String} :
    kind name = .keyword ↔ isSymbol (Text.trim name.toList) = false := by
  simp [kind]

theorem normalize_of_symbol {name : String} (isSymbol : kind name = .symbol) :
    normalize name = String.ofList (Text.trim name.toList) :=
  if_pos (kind_eq_symbol_iff.mp isSymbol)

theorem normalize_of_keyword {name : String} (isKeyword : kind name = .keyword) :
    normalize name = joinKeywords (Text.words name.toList) := by
  rw [← Text.words_trim]
  exact if_neg (Bool.not_eq_true _ ▸ kind_eq_keyword_iff.mp isKeyword)

theorem length_keywords_normalize {name : String} (isKeyword : kind name = .keyword) :
    (keywords (normalize name)).length = max 1 (Text.words name.toList).length := by
  rw [normalize_of_keyword isKeyword]
  exact length_keywords_joinKeywords fun _ => Text.solid_of_mem_words

theorem isSymbol_normalize (name : String) :
    isSymbol (normalize name).toList = isSymbol (Text.trim name.toList) := by
  cases isKind : kind name with
  | symbol => rw [normalize_of_symbol isKind, String.toList_ofList]
  | keyword =>
      rw [kind_eq_keyword_iff.mp isKind, ← Bool.not_eq_true, normalize_of_keyword isKind]
      intro symbolic
      rcases exists_word_of_isSymbol symbolic with ⟨word, single, isSymbol⟩
      rw [← Text.words_trim] at single
      -- A name of one keyword is that keyword, so it would be a symbol as it is written.
      have nonempty : Text.trim name.toList ≠ [] := by
        intro none
        rw [none] at single
        cases single
      have equal := (Text.isTrimmed_trim nonempty).eq_of_words_eq_singleton single
      rw [kind_eq_keyword_iff, equal, isSymbol] at isKind
      cases isKind

theorem kind_eq_of_normalize_eq {left right : String}
    (same : normalize left = normalize right) :
    kind left = kind right := by
  rw [kind, kind, ← isSymbol_normalize, ← isSymbol_normalize, same]

end Operator

end Criteria
