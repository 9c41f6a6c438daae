import Criteria.Evaluator
import Criteria.Proofs.Expr.Part
import Criteria.Proofs.Term.Keyword
import Criteria.Proofs.Term.Placement

/-!
The leaves of an expression in its text.

The leaves of a tree that was read are parts of the text, one after another, and all
that is not in a leaf is a blank, a parenthesis or a keyword. So no text is lost, and an
evaluation of such a tree meets no span without a text.
-/

namespace Criteria

namespace Level

open Term (Tiled Laid Delimited)

/-! ## Leaves among the terms of a level -/

theorem covers_run {source : List Char} {first : Term} {others : List Term}
    (laid : Laid source (first :: others)) :
    ∃ text, Span.Covers ⟨first.start, (others.getLastD first).stop⟩ source text ∧
      Text.IsTrimmed text := by
  have firstPlaced := laid.placed first List.mem_cons_self
  rcases firstPlaced.located with ⟨before, after, equal, size, _⟩
  rcases List.eq_nil_or_concat others with rfl | ⟨init, last, rfl⟩
  · refine ⟨first.text, ⟨before, after, equal, size.symm, ?_⟩,
      firstPlaced.wellFormed.isTrimmed⟩
    rw [size]
    rfl
  · rw [List.concat_eq_append] at laid
    have lastPlaced := laid.placed last (by simp)
    rcases lastPlaced.located with ⟨before', after', equal', size', _⟩
    have apart : first.stop ≤ last.start :=
      List.rel_of_pairwise_cons laid.ordered (by simp)
    have overlap :
        (before ++ first.text) ++ after = before' ++ (last.text ++ after') := by
      rw [← equal, equal', List.append_assoc]
    rw [Term.stop, ← size, ← size', ← Text.byteSize_append] at apart
    rcases Text.exists_append_of_byteSize_le overlap apart with ⟨between, rfl, _⟩
    refine ⟨first.text ++ between ++ last.text,
      ⟨before, after', by simp [equal'], size.symm, ?_⟩,
      firstPlaced.wellFormed.isTrimmed.append lastPlaced.wellFormed.isTrimmed between⟩
    rw [List.concat_eq_append, List.getLastD_concat, Term.stop, ← size']
    simp only [Text.byteSize_append]
    omega

theorem run_bounds {source : List Char} {first term : Term} {others : List Term}
    (laid : Laid source (first :: others)) (member : term ∈ first :: others) :
    first.start ≤ term.start ∧ term.stop ≤ (others.getLastD first).stop := by
  constructor
  · rcases List.mem_cons.mp member with rfl | member
    · exact Nat.le_refl _
    · exact Nat.le_trans (Nat.le_add_right ..)
        (List.rel_of_pairwise_cons laid.ordered member)
  · rcases List.eq_nil_or_concat others with rfl | ⟨init, last, rfl⟩
    · exact Nat.le_of_eq (congrArg Term.stop (List.mem_singleton.mp member))
    rw [List.concat_eq_append, ← List.cons_append] at laid member
    rw [List.concat_eq_append, List.getLastD_concat]
    rcases List.mem_append.mp member with member | member
    · have beforeLast :=
        (List.pairwise_append.mp laid.ordered).2.2 term member last
          (List.mem_singleton_self _)
      exact Nat.le_trans beforeLast (Nat.le_add_right ..)
    · exact Nat.le_of_eq (congrArg Term.stop (List.mem_singleton.mp member))

theorem Reads.covers {source : List Char} {form : Form} {terms : List Term} {expr : Expr}
    (reads : Reads form terms expr) (laid : Laid source terms) :
    ∀ span ∈ expr.leaves, ∃ text, span.Covers source text ∧ Text.IsTrimmed text := by
  induction reads with
  | negation _ _ induction => exact induction laid.tail
  | group kind _ splits _ induction =>
      have tiled := Term.split_eq_ok_iff.mp splits
      exact induction ((laid.placed _ List.mem_cons_self).laid_inside kind tiled)
  | run =>
      intro span member
      rw [Expr.leaves, List.mem_singleton] at member
      rw [member]
      exact covers_run laid
  | single _ induction => exact induction laid
  | connect _ _ _ induction inductionNext =>
      intro span member
      rcases List.mem_append.mp member with member | member
      · exact induction laid.before span member
      · exact inductionNext laid.after.tail span member

theorem Reads.leaves_within {source : List Char} {form : Form} {terms : List Term}
    {expr : Expr} (reads : Reads form terms expr) (laid : Laid source terms) :
    ∀ span ∈ expr.leaves,
      (∃ term ∈ terms, term.start ≤ span.start) ∧ ∃ term ∈ terms,
        span.stop ≤ term.stop := by
  induction reads with
  | @negation term rest _ _ _ induction =>
      intro span member
      rcases induction laid.tail span member with
        ⟨⟨first, inFirst, lower⟩, last, inLast, upper⟩
      exact ⟨⟨first, List.mem_cons_of_mem _ inFirst, lower⟩,
        last, List.mem_cons_of_mem _ inLast, upper⟩
  | @group term terms _ kind _ splits _ induction =>
      intro span member
      have tiled := Term.split_eq_ok_iff.mp splits
      have placed := laid.placed term List.mem_cons_self
      rcases induction (placed.laid_inside kind tiled) span member with
        ⟨⟨first, inFirst, lower⟩, last, inLast, upper⟩
      have firstBounds := placed.wellFormed.bounds_inside kind tiled inFirst
      have lastBounds := placed.wellFormed.bounds_inside kind tiled inLast
      exact ⟨⟨term, List.mem_cons_self, by omega⟩, term, List.mem_cons_self, by omega⟩
  | @run first others _ _ =>
      intro span member
      rw [Expr.leaves, List.mem_singleton] at member
      subst member
      refine ⟨⟨first, List.mem_cons_self, Nat.le_refl _⟩, others.getLastD first, ?_,
        Nat.le_refl _⟩
      rcases List.eq_nil_or_concat others with rfl | ⟨init, last, rfl⟩
      · exact List.mem_cons_self
      · simp
  | single _ induction => exact induction laid
  | @connect before after term _ _ _ _ _ _ induction inductionNext =>
      intro span member
      rcases List.mem_append.mp member with member | member
      · rcases induction laid.before span member with
          ⟨⟨first, inFirst, lower⟩, last, inLast, upper⟩
        exact ⟨⟨first, List.mem_append_left _ inFirst, lower⟩,
          last, List.mem_append_left _ inLast, upper⟩
      · rcases inductionNext laid.after.tail span member with
          ⟨⟨first, inFirst, lower⟩, last, inLast, upper⟩
        exact ⟨⟨first, by simp [inFirst], lower⟩, last, by simp [inLast], upper⟩

theorem Reads.leaves_ordered {source : List Char} {form : Form} {terms : List Term}
    {expr : Expr} (reads : Reads form terms expr) (laid : Laid source terms) :
    expr.leaves.Pairwise fun left right => left.stop < right.start := by
  induction reads with
  | negation _ _ induction => exact induction laid.tail
  | @group term _ _ kind _ splits _ induction =>
      have tiled := Term.split_eq_ok_iff.mp splits
      exact induction ((laid.placed term List.mem_cons_self).laid_inside kind tiled)
  | run => exact List.pairwise_singleton _ _
  | single _ induction => exact induction laid
  | @connect before after term _ _ _ reads _ readsNext induction inductionNext =>
      apply List.pairwise_append.mpr
      refine ⟨induction laid.before, inductionNext laid.after.tail, ?_⟩
      intro left inLeft right inRight
      rcases (reads.leaves_within laid.before left inLeft).2 with ⟨last, inBefore, upper⟩
      rcases (readsNext.leaves_within laid.after.tail right inRight).1 with
        ⟨first, inAfter, lower⟩
      have beforeTerm : last.stop ≤ term.start :=
        (List.pairwise_append.mp laid.ordered).2.2 last inBefore term List.mem_cons_self
      have afterTerm : term.stop ≤ first.start :=
        List.rel_of_pairwise_cons laid.after.ordered inAfter
      have size := Text.byteSize_pos
        (laid.placed term (by simp)).wellFormed.isTrimmed.nonempty
      have stop : term.stop = term.start + Text.byteSize term.text := rfl
      omega

/-! ## What stands outside the leaves -/

/-- At the offset stands a part of a keyword, which is a whole word of `source`. -/
def InKeyword (source : List Char) (offset : Nat) : Prop :=
  ∃ before word after, source = before ++ word ++ after ∧
    Text.upper word ∈ ["AND".toList, "OR".toList, "NOT".toList] ∧
    Delimited before after ∧
    Text.byteSize before ≤ offset ∧ offset < Text.byteSize before + Text.byteSize word

/-- The character at the offset only shows how the leaves are put together. -/
def IsStructure (source : List Char) (offset : Nat) (character : Char) : Prop :=
  isBlank character = true ∨ character = '(' ∨ character = ')' ∨ InKeyword source offset

theorem isStructure_of_keyword {source : List Char} {offset : Nat} {term : Term}
    (placed : term.Placed source) (notGroup : term.kind ≠ .group)
    (notWord : term.kind ≠ .word) (lower : term.start ≤ offset)
    (upper : offset < term.stop) (character : Char) :
    IsStructure source offset character := by
  rcases placed.located with ⟨before, after, equal, size, delimited⟩
  have keyword :=
    Term.upper_mem_of_keyword? (placed.wellFormed.keyword?_eq notGroup notWord)
  rw [← size] at lower
  rw [Term.stop, ← size] at upper
  have inKeyword : InKeyword source offset :=
    ⟨before, term.text, after, equal, keyword, delimited notGroup, lower, upper⟩
  exact .inr (.inr (.inr inKeyword))

theorem eq_parenthesis_or_inside {inner left right : List Char} {character : Char}
    (equal : Nesting.parenthesize inner = left ++ character :: right) :
    character = '(' ∨ character = ')' ∨
      ∃ before after, left = '(' :: before ∧ inner = before ++ character :: after := by
  rw [Nesting.parenthesize, List.cons_append] at equal
  cases left with
  | nil =>
      cases equal
      exact .inl rfl
  | cons head before =>
      rw [List.cons_append, List.cons.injEq] at equal
      rcases equal with ⟨rfl, equal⟩
      rcases List.eq_nil_or_concat right with rfl | ⟨after, last, rfl⟩
      · have same := (List.append_inj' equal rfl).2
        cases same
        exact .inr (.inl rfl)
      · have regrouped : inner ++ [')'] = (before ++ character :: after) ++ [last] := by
          simp [equal]
        exact .inr (.inr ⟨before, after, rfl, (List.append_inj' regrouped rfl).1⟩)

theorem structure_or_inside {source front back : List Char} {character : Char}
    {term : Term} {terms : List Term} (placed : term.Placed source)
    (kind : term.kind = .group) (tiled : Term.Tiled (term.start + 1) term.inner terms)
    (equal : source = front ++ character :: back)
    (lower : term.start ≤ Text.byteSize front) (upper : Text.byteSize front < term.stop) :
    IsStructure source (Text.byteSize front) character ∨
      ∃ other ∈ terms, other.start ≤ Text.byteSize front ∧
        Text.byteSize front < other.stop := by
  rcases placed.located with ⟨before, after, located, size, _⟩
  have stop : term.stop = term.start + Text.byteSize term.text := rfl
  rcases Text.exists_split_of_within (located.symm.trans equal) (by omega) (by omega) with
    ⟨left, right, textEq, frontEq⟩
  rw [(placed.wellFormed.of_group kind).1] at textEq
  rcases eq_parenthesis_or_inside textEq with
    isOpen | isClose | ⟨skipped, rest, rfl, innerEq⟩
  · exact .inl (.inr (.inl isOpen))
  · exact .inl (.inr (.inr (.inl isClose)))
  · have offset : Text.byteSize front = term.start + 1 + Text.byteSize skipped := by
      rw [frontEq, Text.byteSize_append, size, Text.byteSize, ← Nat.add_assoc]
      rfl
    rcases tiled.blank_or_within innerEq with blank | within
    · exact .inl (.inl blank)
    · rw [← offset] at within
      exact .inr within

/-- A character of a term of the level belongs to a leaf, or it shows how the leaves are
put together. -/
theorem Reads.structure_or_leaf {source front back : List Char} {character : Char}
    {form : Form} {terms : List Term} {expr : Expr} (reads : Reads form terms expr)
    (laid : Laid source terms) (equal : source = front ++ character :: back) {term : Term}
    (member : term ∈ terms) (lower : term.start ≤ Text.byteSize front)
    (upper : Text.byteSize front < term.stop) :
    IsStructure source (Text.byteSize front) character ∨
      ∃ span ∈ expr.leaves, span.start ≤ Text.byteSize front ∧
        Text.byteSize front < span.stop := by
  induction reads generalizing term with
  | negation kind _ induction =>
      rcases List.mem_cons.mp member with rfl | member
      · have placed := laid.placed term List.mem_cons_self
        exact .inl (isStructure_of_keyword placed (by simp [kind]) (by simp [kind]) lower
          upper character)
      · exact induction laid.tail member lower upper
  | group kind _ splits _ induction =>
      rw [List.mem_singleton] at member
      subst member
      have tiled := Term.split_eq_ok_iff.mp splits
      have placed := laid.placed term List.mem_cons_self
      rcases structure_or_inside placed kind tiled equal lower upper with
        structural | ⟨other, inInner, lower, upper⟩
      · exact .inl structural
      · exact induction (placed.laid_inside kind tiled) inInner lower upper
  | run =>
      have bounds := run_bounds laid member
      exact .inr ⟨_, List.mem_singleton_self _, Nat.le_trans bounds.1 lower,
        Nat.lt_of_lt_of_le upper bounds.2⟩
  | single _ induction => exact induction laid member lower upper
  | connect _ kind _ induction inductionNext =>
      rcases List.mem_append.mp member with member | member
      · rcases induction laid.before member lower upper with
          structural | ⟨span, inLeft, bounds⟩
        · exact .inl structural
        · exact .inr ⟨span, List.mem_append_left _ inLeft, bounds⟩
      rcases List.mem_cons.mp member with rfl | member
      · have placed := laid.placed term (by simp)
        exact .inl (isStructure_of_keyword placed (by simp [kind]) (by simp [kind]) lower
          upper character)
      · rcases inductionNext laid.after.tail member lower upper with
          structural | ⟨span, inRight, bounds⟩
        · exact .inl structural
        · exact .inr ⟨span, List.mem_append_right _ inRight, bounds⟩

end Level

namespace Expr

/-! ## Trees that were read -/

theorem length_leafTexts {source : List Char} {expr : Expr}
    (sliced : ∀ span ∈ expr.leaves, ∃ text, span.slice? source = some text) :
    (expr.leafTexts source).length = expr.leafCount := by
  rw [leafTexts, List.length_filterMap_eq_countP, ← length_leaves]
  apply List.countP_eq_length.mpr
  intro span member
  rcases sliced span member with ⟨text, slice⟩
  rw [slice]
  rfl

theorem evaluate_congr {m : Type → Type} [Monad m] {judge judge' : Span → m Bool}
    (expr : Expr) (agree : ∀ span ∈ expr.leaves, judge span = judge' span) :
    expr.evaluate judge = expr.evaluate judge' := by
  induction expr with
  | leaf span => exact agree span (List.mem_singleton_self _)
  | not inner induction => rw [evaluate, evaluate, induction agree]
  | connect connective left right leftInduction rightInduction =>
      rw [evaluate, evaluate,
        leftInduction fun span member => agree span (List.mem_append_left _ member),
        rightInduction fun span member => agree span (List.mem_append_right _ member)]

/-- The leaves of a tree that was read from `source` are parts of it, in order and apart
from each other. All else is structure, every leaf has its text, and what an evaluation
would do at a leaf without a text makes no difference. -/
theorem read_leaves {source : List Char} {expr : Expr} (result : read source = .ok expr) :
    (∀ span ∈ expr.leaves, span.start < span.stop ∧
      ∃ text, span.slice? source = some text ∧ Text.IsTrimmed text) ∧
    (expr.leaves.Pairwise fun left right => left.stop < right.start) ∧
    (∀ before character after, source = before ++ character :: after →
      (∀ span ∈ expr.leaves,
        ¬ (span.start ≤ Text.byteSize before ∧ Text.byteSize before < span.stop)) →
      Level.IsStructure source (Text.byteSize before) character) ∧
    (expr.leafTexts source).length = expr.leafCount ∧
    ∀ (m : Type → Type) [Monad m] (evaluator : Evaluator m) (context : Context)
      (otherwise : Span → ExceptT EvaluationError m Bool),
      expr.evaluate (evaluator.evaluateLeaf context source) =
        expr.evaluate fun span =>
          match span.slice? source with
          | some condition =>
              evaluator.judge evaluator.vocabulary context (String.ofList condition)
          | none => otherwise span := by
  rcases read_eq_ok_iff.mp result with ⟨terms, tiled, reads⟩
  have covers := reads.covers tiled.laid
  have sliced : ∀ span ∈ expr.leaves, ∃ text, span.slice? source = some text ∧
      Text.IsTrimmed text := by
    intro span member
    rcases covers span member with ⟨text, covered, trimmed⟩
    exact ⟨text, covered.slice?_eq, trimmed⟩
  refine ⟨?_, reads.leaves_ordered tiled.laid, ?_, ?_, ?_⟩
  · intro span member
    rcases covers span member with ⟨text, ⟨_, _, _, start, stop⟩, trimmed⟩
    have size := Text.byteSize_pos trimmed.nonempty
    exact ⟨by omega, sliced span member⟩
  · intro before character after equal noLeaf
    rcases tiled.blank_or_within equal with blank | ⟨term, member, lower, upper⟩
    · exact .inl blank
    · rw [Nat.zero_add] at lower upper
      rcases reads.structure_or_leaf tiled.laid equal member lower upper with
        structural | ⟨span, inLeaves, bounds⟩
      · exact structural
      · exact absurd bounds (noLeaf span inLeaves)
  · exact length_leafTexts fun span member => (sliced span member).imp fun _ => And.left
  · intro m monad evaluator context otherwise
    apply evaluate_congr
    intro span member
    rcases sliced span member with ⟨text, slice, _⟩
    rw [Evaluator.evaluateLeaf, slice]

theorem read_leaves_of_touching_terms :
    read "é (1)AND(NOT ü)".toList =
        .ok (.connect .and (.leaf ⟨0, 6⟩) (.not (.leaf ⟨14, 16⟩))) ∧
      (leafTexts (.connect .and (.leaf ⟨0, 6⟩) (.not (.leaf ⟨14, 16⟩)))
        "é (1)AND(NOT ü)".toList).length = 2 := by
  have result : read "é (1)AND(NOT ü)".toList =
      .ok (.connect .and (.leaf ⟨0, 6⟩) (.not (.leaf ⟨14, 16⟩))) := by decide +kernel
  exact ⟨result, (read_leaves result).2.2.2.1⟩

end Expr

end Criteria
