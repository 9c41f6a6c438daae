import Criteria.Proofs.Term.Enclosure
import Criteria.Proofs.Term.Keyword
import Criteria.Proofs.Term.Placement
import Criteria.Proofs.Text.Hidden

/-!
The terms of a part of an expression as a partition of it.

Terms are spans that lie apart and in order, and only blanks are outside them. What the
text of a term is depends on its kind, and so does whether the next term may touch it.
All this is said of the part itself, by its characters and by the enclosures of its
beginnings, without the splitter.
-/

namespace Criteria.Term

open Nesting (parenthesize)

/-! ## Texts of a kind -/

/-- What a text of a kind is. A group ends with the parenthesis that closes the one at
its start: no beginning of it is complete before. A word has no blank where what stands
before is complete, which is outside quotes and parentheses. -/
inductive HasKind : List Char → Kind → Prop
  | connective {text : List Char} {connective : Connective}
      (spelled : Text.upper text = connective.spelling) :
        HasKind text (.connective connective)
  | negation {text : List Char} (spelled : Text.upper text = "NOT".toList) :
      HasKind text .negation
  | group {inner : List Char} (complete : Enclosure.of (parenthesize inner) = .complete)
      (first : ∀ before after, parenthesize inner = before ++ after → before ≠ [] →
        after ≠ [] →
        Enclosure.of before ≠ .complete) : HasKind (parenthesize inner) .group
  | word {text : List Char} (noGroup : text.head? ≠ some '(')
      (noConnective : ∀ connective : Connective, Text.upper text ≠ connective.spelling)
      (noNegation : Text.upper text ≠ "NOT".toList)
      (complete : Enclosure.of text = .complete)
      (solid : ∀ before next after, text = before ++ next :: after →
        Enclosure.of before = .complete → isBlank next = false) : HasKind text .word

theorem hasKind_of_keyword? {text : List Char} {kind : Kind}
    (keyword : keyword? text = some kind) :
    HasKind text kind := by
  simp only [keyword?, Text.caseless_iff] at keyword
  split at keyword
  · rename_i isAnd
    cases keyword
    exact .connective isAnd
  split at keyword
  · rename_i isOr
    cases keyword
    exact .connective isOr
  split at keyword
  · rename_i isNot
    cases keyword
    exact .negation isNot
  · cases keyword

theorem hasKind_parenthesize {inner : List Char} (balanced : Nesting.Balanced inner) :
    HasKind (parenthesize inner) .group := by
  refine .group (Enclosure.of_eq_complete_iff.mpr balanced.parenthesize) ?_
  intro before after equal started goesOn closed
  rcases List.exists_cons_of_ne_nil goesOn with ⟨next, rest, rfl⟩
  have outside := Enclosure.of_eq_complete_iff.mp closed
  exact started (Nesting.isEnclosed_parenthesize balanced before next rest equal outside)

theorem IsWord.hasKind {word : List Char} (isWord : IsWord word) :
    HasKind word (wordKind word) := by
  cases keyword : keyword? word with
  | some kind =>
      rw [wordKind, keyword]
      exact hasKind_of_keyword? keyword
  | none =>
      rw [wordKind, keyword]
      refine .word isWord.noGroup ?_ ?_
        (Enclosure.of_eq_complete_iff.mpr isWord.balanced) ?_
      · intro connective spelled
        rw [keyword?_of_connective spelled] at keyword
        cases keyword
      · intro spelled
        rw [keyword?_of_negation spelled] at keyword
        cases keyword
      · intro before next after equal closed
        have outside := Enclosure.of_eq_complete_iff.mp closed
        have goesOn := isWord.goesOn before next after equal outside
        simp only [EndsBefore, not_or, Bool.not_eq_true] at goesOn
        exact goesOn.1

theorem WellFormed.hasKind {term : Term} (wellFormed : term.WellFormed) :
    HasKind term.text term.kind := by
  cases wellFormed with
  | group balanced => exact hasKind_parenthesize balanced
  | word isWord => exact isWord.hasKind

/-! ## Terms that touch -/

theorem Tiled.kinds_of_touching {start : Nat} {text : List Char} {left right : Term}
    {others : List Term} (tiled : Tiled start text (left :: right :: others))
    (touching : left.stop = right.start) :
    left.kind = .group ∨ left.kind ≠ .word ∧ right.kind = .group := by
  rcases tiled.exists_head with ⟨_, _, _, _, _, ends, _, fromRight⟩
  rcases fromRight.exists_head with ⟨gap, rest, rfl, _, size, _⟩
  have noGap : gap = [] := Text.eq_nil_of_byteSize (by omega)
  subst noGap
  by_cases isGroup : left.kind = .group
  · exact .inl isGroup
  right
  have leftFormed := tiled.wellFormed List.mem_cons_self
  have rightFormed := fromRight.wellFormed List.mem_cons_self
  rcases List.exists_cons_of_ne_nil rightFormed.isTrimmed.nonempty with
    ⟨first, others, isText⟩
  rcases ends isGroup first (by simp [isText]) with blank | ⟨rfl, keyword⟩
  · have solid := rightFormed.isTrimmed.head first (by simp [isText])
    rw [solid] at blank
    cases blank
  · constructor
    · intro isWord
      rcases Option.isSome_iff_exists.mp keyword with ⟨kind, found⟩
      rw [(leftFormed.of_ne_group isGroup).1, wordKind, found] at isWord
      exact (kind_ne_of_keyword? found).2 isWord
    · by_cases notGroup : right.kind = .group
      · exact notGroup
      · exact absurd (by rw [isText]; rfl) (rightFormed.of_ne_group notGroup).2.noGroup

/-! ## Parts of an expression -/

/-- The terms are all that there is at the span in `source`, blanks apart, and every
character is in one of them at most. -/
structure Partition (source : List Char) (span : Span) (terms : List Term) : Prop where
  filled : ∀ term ∈ terms, term.start < term.stop
  within : ∀ term ∈ terms, span.start ≤ term.start ∧ term.stop ≤ span.stop
  ordered : terms.Pairwise fun left right => left.stop ≤ right.start
  /-- A character at the span is blank, or it is in a term. -/
  covered : ∀ before character after, source = before ++ character :: after →
    span.start ≤ Text.byteSize before → Text.byteSize before < span.stop →
    isBlank character = true ∨
      ∃ term ∈ terms, term.start ≤ Text.byteSize before ∧ Text.byteSize before < term.stop
  sliced : ∀ term ∈ terms, Span.slice? ⟨term.start, term.stop⟩ source = some term.text
  kinds : ∀ term ∈ terms, HasKind term.text term.kind
  inner : ∀ term ∈ terms, term.kind = .group → term.text = parenthesize term.inner ∧
    Span.slice? ⟨term.start + 1, term.stop - 1⟩ source = some term.inner
  apart : ∀ front left right back, terms = front ++ left :: right :: back →
    left.stop = right.start → left.kind = .group ∨ left.kind ≠ .word ∧ right.kind = .group

theorem Tiled.partition {source text : List Char} {span : Span} {terms : List Term}
    (tiled : Tiled span.start text terms) (covers : span.Covers source text) :
    Partition source span terms where
  filled term member :=
    Nat.lt_add_of_pos_right
      (Text.byteSize_pos (tiled.wellFormed member).isTrimmed.nonempty)
  within term member := by
    rcases covers with ⟨_, _, _, isStart, isStop⟩
    rw [isStop, ← isStart]
    exact ⟨tiled.start_le member, tiled.stop_le member⟩
  ordered := tiled.ordered
  covered before character after equal lower upper := by
    rcases covers with ⟨front, back, located, isStart, isStop⟩
    rw [isStart] at lower
    rw [isStop] at upper
    rcases Text.exists_split_of_within (located.symm.trans equal) lower upper with
      ⟨left, right, textEq, beforeEq⟩
    rw [beforeEq, Text.byteSize_append, ← isStart]
    exact tiled.blank_or_within textEq
  sliced term member := (tiled.covers covers member).slice?_eq
  kinds term member := (tiled.wellFormed member).hasKind
  inner term member kind :=
    ⟨((tiled.wellFormed member).of_group kind).1,
      ((tiled.wellFormed member).covers_inner kind
        (tiled.covers covers member)).slice?_eq⟩
  apart front left right back equal touching := by
    rw [equal] at tiled
    rcases tiled.exists_split with ⟨_, _, _, _, fromLeft, _⟩
    exact fromLeft.kinds_of_touching touching

/-- Splitting a part of an expression loses nothing and takes nothing twice, and it
succeeds exactly if the part is complete. -/
theorem split_partition {source text : List Char} {span : Span}
    (slice : span.slice? source = some text) :
    ((∃ terms, split span.start text = .ok terms) ↔ Enclosure.of text = .complete) ∧
      ∀ terms, split span.start text = .ok terms → Partition source span terms := by
  have covers := Span.slice?_eq_some_iff.mp slice
  refine ⟨?_, fun terms splits => (split_eq_ok_iff.mp splits).partition covers⟩
  rw [Enclosure.of_eq_complete_iff]
  constructor
  · rintro ⟨terms, splits⟩
    exact (split_eq_ok_iff.mp splits).balanced
  · intro balanced
    rcases exists_tiled_of_balanced balanced span.start with ⟨terms, tiled⟩
    exact ⟨terms, split_eq_ok_iff.mpr tiled⟩

theorem split_partition_of_touching_terms :
    let source := "é(NOT(\"a)\" b)AND(c) LEN( d ) )".toList
    let text := "NOT(\"a)\" b)AND(c) LEN( d ) ".toList
    let terms : List Term :=
      [⟨.negation, 3, "NOT".toList⟩, ⟨.group, 6, "(\"a)\" b)".toList⟩,
      ⟨.connective .and, 14, "AND".toList⟩, ⟨.group, 17, "(c)".toList⟩,
      ⟨.word, 21, "LEN( d )".toList⟩]
    Span.slice? ⟨3, 30⟩ source = some text ∧ split 3 text = .ok terms ∧
      Partition source ⟨3, 30⟩ terms := by
  intro source text terms
  have slice : Span.slice? ⟨3, 30⟩ source = some text := by decide +kernel
  have splits : split 3 text = .ok terms := rfl
  exact ⟨slice, splits, (split_partition slice).2 terms splits⟩

end Criteria.Term
