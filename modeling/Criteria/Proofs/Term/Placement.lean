import Criteria.Proofs.Term.Tiling
import Criteria.Proofs.Text.Span

/-!
Where the terms of a text stand.

Terms stand one after another and never overlap, no term has a blank at its ends, and a
term that is no group is a whole word of the text: before it and after it stands a
blank, a parenthesis, or nothing. Between the terms there are blanks only.
-/

namespace Criteria.Term

open Nesting (outside parenthesize)

/-! ## The ends of terms -/

theorem IsWord.isTrimmed {word : List Char} (isWord : IsWord word) :
    Text.IsTrimmed word where
  nonempty := isWord.nonempty
  head character isHead := by
    cases word with
    | nil => cases isHead
    | cons first others =>
        cases isHead
        have goesOn := isWord.goesOn [] character others rfl Nesting.balanced_nil
        simp only [EndsBefore, not_or, Bool.not_eq_true] at goesOn
        exact goesOn.1
  last character isLast := by
    rcases List.eq_nil_or_concat word with rfl | ⟨others, last, rfl⟩
    · cases isLast
    rw [List.concat_eq_append, List.getLast?_concat] at isLast
    cases isLast
    cases blank : isBlank character with
    | false => rfl
    | true =>
        have balanced := isWord.balanced
        rw [Nesting.Balanced, List.concat_eq_append, Nesting.scan?_append,
          Option.bind_eq_some_iff] at balanced
        rcases balanced with ⟨position, scanned, stepped⟩
        rw [Nesting.scan?_cons, Option.bind_eq_some_iff] at stepped
        rcases stepped with ⟨after, stepped, ended⟩
        cases ended
        rw [(Nesting.step?_eq_outside_iff_of_blank blank).mp stepped] at scanned
        have goesOn :=
          isWord.goesOn others character [] (List.concat_eq_append ..) scanned
        exact absurd (.inl blank) goesOn

theorem isTrimmed_parenthesize (inner : List Char) :
    Text.IsTrimmed (parenthesize inner) where
  nonempty := List.cons_ne_nil _ _
  head character isHead := by
    cases isHead
    decide
  last character isLast := by
    rw [parenthesize, List.getLast?_concat] at isLast
    cases isLast
    decide

theorem WellFormed.isTrimmed {term : Term} (wellFormed : term.WellFormed) :
    Text.IsTrimmed term.text := by
  cases wellFormed with
  | group => exact isTrimmed_parenthesize _
  | word isWord => exact isWord.isTrimmed

/-! ## Terms in their text -/

theorem Tiled.start_le {start : Nat} {text : List Char} {terms : List Term} {term : Term}
    (tiled : Tiled start text terms) (member : term ∈ terms) : start ≤ term.start := by
  induction tiled with
  | nil => cases member
  | blank _ _ induction => exact Nat.le_trans (Nat.le_add_right ..) (induction member)
  | term _ _ _ induction =>
      rcases List.mem_cons.mp member with rfl | member
      · exact Nat.le_refl _
      · exact Nat.le_trans (Nat.le_add_right ..) (induction member)

theorem Tiled.stop_le {start : Nat} {text : List Char} {terms : List Term} {term : Term}
    (tiled : Tiled start text terms) (member : term ∈ terms) :
    term.stop ≤ start + Text.byteSize text := by
  induction tiled with
  | nil => cases member
  | blank _ _ induction =>
      have bound := induction member
      rw [Text.byteSize]
      omega
  | @term head rest terms _ _ _ induction =>
      rw [Text.byteSize_append, ← Nat.add_assoc]
      rcases List.mem_cons.mp member with rfl | member
      · exact Nat.le_add_right ..
      · exact induction member

theorem Tiled.ordered {start : Nat} {text : List Char} {terms : List Term}
    (tiled : Tiled start text terms) :
    terms.Pairwise fun left right => left.stop ≤ right.start := by
  induction tiled with
  | nil => exact .nil
  | blank _ _ induction => exact induction
  | term _ _ rest induction =>
      exact .cons (fun _ member => rest.start_le member) induction

theorem Tiled.blank_or_within {start : Nat} {text before after : List Char}
    {terms : List Term} {character : Char} (tiled : Tiled start text terms)
    (equal : text = before ++ character :: after) :
    isBlank character = true ∨
      ∃ term ∈ terms, term.start ≤ start + Text.byteSize before ∧
        start + Text.byteSize before < term.stop := by
  induction tiled generalizing before with
  | nil => simp at equal
  | blank blank _ induction =>
      cases before with
      | nil =>
          cases equal
          exact .inl blank
      | cons head others =>
          cases equal
          rw [Text.byteSize, ← Nat.add_assoc]
          exact induction rfl
  | @term term rest terms wellFormed _ _ induction =>
      rcases Nat.lt_or_ge (Text.byteSize before) (Text.byteSize term.text) with
        inside | beyond
      · exact .inr ⟨term, List.mem_cons_self, Nat.le_add_right ..,
          Nat.add_lt_add_left inside _⟩
      · rcases Text.exists_append_of_byteSize_le equal beyond with ⟨between, rfl, restEq⟩
        rcases induction restEq with blank | ⟨other, member, lower, upper⟩
        · exact .inl blank
        · rw [Text.byteSize_append, ← Nat.add_assoc]
          exact .inr ⟨other, List.mem_cons_of_mem _ member, lower, upper⟩

theorem Tiled.exists_split {start : Nat} {text : List Char} {terms others : List Term}
    (tiled : Tiled start text (terms ++ others)) :
    ∃ left right, text = left ++ right ∧ Tiled start left terms ∧
      Tiled (start + Text.byteSize left) right others ∧
      ∀ last ∈ terms.getLast?, start + Text.byteSize left = last.stop := by
  generalize joined : terms ++ others = all at tiled
  induction tiled generalizing terms with
  | @nil start =>
      rcases List.append_eq_nil_iff.mp joined with ⟨rfl, rfl⟩
      exact ⟨[], [], rfl, .nil, .nil, by simp⟩
  | @blank start character rest _ blank tiled induction =>
      cases terms with
      | nil =>
          cases joined
          exact ⟨[], character :: rest, rfl, .nil, .blank blank tiled, by simp⟩
      | cons =>
          rcases induction joined with ⟨left, right, rfl, leftTiled, rightTiled, ended⟩
          rw [Nat.add_assoc] at rightTiled ended
          exact ⟨character :: left, right, rfl, .blank blank leftTiled, rightTiled, ended⟩
  | @term term rest _ wellFormed ends tiled induction =>
      match terms with
      | [] =>
          cases joined
          exact ⟨[], term.text ++ rest, rfl, .nil, .term wellFormed ends tiled, by simp⟩
      | [only] =>
          cases joined
          have alone : Tiled term.start (term.text ++ []) [term] :=
            .term wellFormed (by simp) .nil
          rw [List.append_nil] at alone
          exact ⟨term.text, rest, rfl, alone, tiled, by simp [stop]⟩
      | first :: second :: more =>
          rw [List.cons_append, List.cons.injEq] at joined
          rcases joined with ⟨rfl, joined⟩
          rcases induction joined with ⟨left, right, rfl, leftTiled, rightTiled, ended⟩
          rw [stop, Nat.add_assoc, ← Text.byteSize_append] at rightTiled ended
          refine ⟨first.text ++ left, right, (List.append_assoc ..).symm,
            .term wellFormed (fun notGroup next isHead => ?_) leftTiled, rightTiled, ?_⟩
          · exact ends notGroup next (by simp [Option.mem_def.mp isHead])
          · rw [List.getLast?_cons_cons]
            exact ended

theorem Tiled.allBlank_after {start : Nat} {text before after : List Char}
    {terms : List Term} {last : Term} (tiled : Tiled start text terms)
    (isLast : terms.getLast? = some last) (equal : text = before ++ after)
    (ended : start + Text.byteSize before = last.stop) :
    Text.allBlank after = true := by
  rw [← List.append_nil terms] at tiled
  rcases tiled.exists_split with ⟨left, right, rfl, _, rightTiled, ended'⟩
  have size : Text.byteSize left = Text.byteSize before :=
    Nat.add_left_cancel ((ended' last isLast).trans ended.symm)
  rw [← (Text.append_inj_of_byteSize equal size).2]
  exact rightTiled.allBlank_of_nil

theorem Tiled.exists_head {start : Nat} {text : List Char} {first : Term}
    {others : List Term} (tiled : Tiled start text (first :: others)) :
    ∃ gap rest, text = gap ++ (first.text ++ rest) ∧ Text.allBlank gap = true ∧
      start + Text.byteSize gap = first.start ∧
      (first.kind ≠ .group → ∀ next ∈ rest.head?, EndsBefore first.text next) ∧
      Tiled first.start (first.text ++ rest) (first :: others) ∧
      Tiled first.stop rest others := by
  generalize joined : first :: others = all at tiled
  induction tiled with
  | nil => cases joined
  | @blank start character rest _ blank _ induction =>
      rcases induction joined with ⟨gap, rest, rfl, blankGap, size, ends, tiled⟩
      refine ⟨character :: gap, rest, rfl, ?_, ?_, ends, tiled⟩
      · rw [Text.allBlank, List.all_cons, blank]
        exact blankGap
      · rw [Text.byteSize, ← Nat.add_assoc, size]
  | @term term rest _ wellFormed ends tiled =>
      cases joined
      exact ⟨[], rest, rfl, rfl, rfl, ends, .term wellFormed ends tiled, tiled⟩

theorem Tiled.exists_around {start : Nat} {text : List Char} {terms : List Term}
    {term : Term} (tiled : Tiled start text terms) (member : term ∈ terms) :
    ∃ before after, text = before ++ term.text ++ after ∧
      start + Text.byteSize before = term.start ∧ Nesting.Balanced before := by
  rcases List.append_of_mem member with ⟨front, back, rfl⟩
  rcases tiled.exists_split with ⟨left, right, rfl, leftTiled, rightTiled, _⟩
  rcases rightTiled.exists_head with ⟨gap, rest, rfl, blank, size, _⟩
  refine ⟨left ++ gap, rest, by simp, ?_, ?_⟩
  · rw [Text.byteSize_append, ← Nat.add_assoc, size]
  · exact leftTiled.balanced.append (tiled_of_allBlank blank 0).balanced

theorem Tiled.covers {source text : List Char} {span : Span} {terms : List Term}
    {term : Term} (tiled : Tiled span.start text terms) (covers : span.Covers source text)
    (member : term ∈ terms) : Span.Covers ⟨term.start, term.stop⟩ source term.text := by
  rcases tiled.exists_around member with ⟨before, after, equal, size, _⟩
  have part := covers.part equal
  rwa [size] at part

theorem WellFormed.covers_inner {source : List Char} {group : Term}
    (wellFormed : group.WellFormed) (kind : group.kind = .group)
    (covers : Span.Covers ⟨group.start, group.stop⟩ source group.text) :
    Span.Covers ⟨group.start + 1, group.stop - 1⟩ source group.inner := by
  have isGroup : group.text = ['('] ++ group.inner ++ [')'] :=
    (wellFormed.of_group kind).1
  have part := covers.part isGroup
  have stop : group.stop - 1 = group.start + 1 + Text.byteSize group.inner := by
    rw [Term.stop, wellFormed.byteSize_of_group kind]
    omega
  rw [stop]
  exact part

/-! ## Whole words -/

def isDelimiter (character : Char) : Bool :=
  isBlank character || character == '(' || character == ')'

structure Delimited (before after : List Char) : Prop where
  before : ∀ character ∈ before.getLast?, isDelimiter character = true
  after : ∀ character ∈ after.head?, isDelimiter character = true

/-- The term stands at its offset in `source`, as a whole word if it is no group. -/
structure Placed (source : List Char) (term : Term) : Prop where
  wellFormed : term.WellFormed
  located : ∃ before after, source = before ++ term.text ++ after ∧
    Text.byteSize before = term.start ∧ (term.kind ≠ .group → Delimited before after)

theorem EndsBefore.isDelimiter {word : List Char} {next : Char}
    (ends : EndsBefore word next) :
    isDelimiter next = true := by
  rcases ends with blank | ⟨rfl, _⟩
  · simp [Term.isDelimiter, blank]
  · decide

theorem IsWord.head_not_delimiter {word : List Char} {character : Char}
    (isWord : IsWord word) (isHead : character ∈ word.head?) :
    isDelimiter character = false := by
  have solid := isWord.isTrimmed.head character isHead
  have notOpen : character ≠ '(' := by
    rintro rfl
    exact isWord.noGroup isHead
  have notClose : character ≠ ')' := by
    rintro rfl
    cases word with
    | nil => cases isHead
    | cons first others =>
        cases isHead
        have balanced := isWord.balanced
        have stuck : outside.step? ')' = none := Nesting.step?_eq_none_iff.mpr ⟨rfl, rfl⟩
        rw [Nesting.Balanced, Nesting.scan?_cons, stuck] at balanced
        cases balanced
  simp [isDelimiter, solid, notOpen, notClose]

/-- What follows `before` is not the rest of a word that `before` has the beginning of. -/
private def Apart (before text : List Char) : Prop :=
  (∀ character ∈ before.getLast?, isDelimiter character = true) ∨
    ∀ character ∈ text.head?, isDelimiter character = true

private theorem Apart.before_delimited {before word rest : List Char}
    (isWord : IsWord word) (apart : Apart before (word ++ rest)) :
    ∀ character ∈ before.getLast?, isDelimiter character = true := by
  rcases apart with before | after
  · exact before
  · cases word with
    | nil => exact absurd rfl isWord.nonempty
    | cons first others =>
        have starts := after first rfl
        rw [isWord.head_not_delimiter rfl] at starts
        cases starts

private theorem Tiled.placed_of_apart {source before text after : List Char} {start : Nat}
    {terms : List Term} {term : Term} (tiled : Tiled start text terms)
    (member : term ∈ terms) (equal : source = before ++ text ++ after)
    (size : Text.byteSize before = start) (apart : Apart before text)
    (closed : ∀ character ∈ after.head?, isDelimiter character = true) :
    term.Placed source := by
  induction tiled generalizing before with
  | nil => cases member
  | @blank start character rest terms blank _ induction =>
      have delimiter : isDelimiter character = true := by simp [isDelimiter, blank]
      have regrouped :
          source = (before ++ [character]) ++ rest ++ after := by simp [equal]
      apply induction member regrouped
      · simp [Text.byteSize, size]
      · exact .inl (by simpa using delimiter)
  | @term head rest terms wellFormed ends _ induction =>
      rcases List.mem_cons.mp member with rfl | member
      · refine ⟨wellFormed, before, rest ++ after, by simp [equal], size,
          fun notGroup => ?_⟩
        have isWord := (wellFormed.of_ne_group notGroup).2
        refine ⟨apart.before_delimited isWord, ?_⟩
        cases rest with
        | nil => exact closed
        | cons next others =>
            intro character isHead
            cases isHead
            exact (ends notGroup next rfl).isDelimiter
      · have regrouped :
            source = (before ++ head.text) ++ rest ++ after := by simp [equal]
        apply induction member regrouped
        · rw [Text.byteSize_append, size, stop]
        · -- A group ends with a delimiter, a word before one.
          by_cases isGroup : head.kind = .group
          · left
            intro character isLast
            rw [(wellFormed.of_group isGroup).1, parenthesize, ← List.append_assoc,
              List.getLast?_concat] at isLast
            cases isLast
            decide
          · right
            intro next isHead
            exact (ends isGroup next isHead).isDelimiter

/-- The terms of a text stand in every larger text in which its ends are whole words. -/
theorem Tiled.placed {source before text after : List Char} {start : Nat}
    {terms : List Term} {term : Term} (tiled : Tiled start text terms)
    (member : term ∈ terms) (equal : source = before ++ text ++ after)
    (size : Text.byteSize before = start) (delimited : Delimited before after) :
    term.Placed source :=
  tiled.placed_of_apart member equal size (.inl delimited.before) delimited.after

theorem WellFormed.bounds_inside {group term : Term} {terms : List Term}
    (wellFormed : group.WellFormed) (kind : group.kind = .group)
    (tiled : Tiled (group.start + 1) group.inner terms) (member : term ∈ terms) :
    group.start < term.start ∧ term.stop < group.stop := by
  have lower := tiled.start_le member
  have upper := tiled.stop_le member
  have stopEq : group.stop = group.start + (1 + Text.byteSize group.inner + 1) :=
    congrArg (group.start + ·) (wellFormed.byteSize_of_group kind)
  omega

theorem Placed.inside {source : List Char} {group term : Term} {terms : List Term}
    (placed : group.Placed source) (kind : group.kind = .group)
    (tiled : Tiled (group.start + 1) group.inner terms) (member : term ∈ terms) :
    term.Placed source := by
  rcases placed.located with ⟨before, after, equal, size, _⟩
  have regrouped : source = (before ++ ['(']) ++ group.inner ++ ')' :: after := by
    rw [equal, (placed.wellFormed.of_group kind).1]
    simp [parenthesize]
  apply tiled.placed member regrouped
  · rw [Text.byteSize_append, size]
    rfl
  · constructor
    · intro character isLast
      rw [List.getLast?_concat] at isLast
      cases isLast
      decide
    · intro character isHead
      cases isHead
      decide

structure Laid (source : List Char) (terms : List Term) : Prop where
  placed : ∀ term ∈ terms, term.Placed source
  ordered : terms.Pairwise fun left right => left.stop ≤ right.start

theorem Laid.tail {source : List Char} {term : Term} {rest : List Term}
    (laid : Laid source (term :: rest)) : Laid source rest :=
  ⟨fun other member => laid.placed other (List.mem_cons_of_mem _ member),
    laid.ordered.of_cons⟩

theorem Laid.before {source : List Char} {before after : List Term}
    (laid : Laid source (before ++ after)) : Laid source before :=
  ⟨fun other member => laid.placed other (List.mem_append_left _ member),
    (List.pairwise_append.mp laid.ordered).1⟩

theorem Laid.after {source : List Char} {before after : List Term}
    (laid : Laid source (before ++ after)) : Laid source after :=
  ⟨fun other member => laid.placed other (List.mem_append_right _ member),
    (List.pairwise_append.mp laid.ordered).2.1⟩

theorem Tiled.laid {source : List Char} {terms : List Term}
    (tiled : Tiled 0 source terms) :
    Laid source terms where
  placed term member := by
    have whole : source = [] ++ source ++ [] := (List.append_nil source).symm
    exact tiled.placed member whole rfl ⟨by simp, by simp⟩
  ordered := tiled.ordered

theorem Placed.laid_inside {source : List Char} {group : Term} {terms : List Term}
    (placed : group.Placed source) (kind : group.kind = .group)
    (tiled : Tiled (group.start + 1) group.inner terms) : Laid source terms :=
  ⟨fun _ member => placed.inside kind tiled member, tiled.ordered⟩

end Criteria.Term
