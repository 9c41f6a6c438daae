import Criteria.Proofs.Expr.Leaves
import Criteria.Proofs.Expr.Shift

/-!
Leaves that stand alone.

The text of a leaf consists of whole terms, from the first one to the last. Taken out
of its expression it has the same terms, so it is an expression itself, and that leaf
is all of it. A splitter that starts at the group of the leaf comes to it with
everything closed.
-/

namespace Criteria

namespace Term

theorem Tiled.exists_run {start : Nat} {text : List Char} {first : Term}
    {others : List Term} (tiled : Tiled start text (first :: others)) :
    ∃ gap run after, text = gap ++ run ++ after ∧ Text.allBlank gap = true ∧
      start + Text.byteSize gap = first.start ∧
      first.start + Text.byteSize run = (others.getLastD first).stop ∧
      Tiled first.start run (first :: others) := by
  rcases tiled.exists_head with ⟨gap, rest, rfl, blank, size, _, fromFirst, _⟩
  rw [← List.append_nil (first :: others)] at fromFirst
  rcases fromFirst.exists_split with ⟨run, after, equal, runTiled, _, ended⟩
  have isLast : (first :: others).getLast? = some (others.getLastD first) := by
    rw [List.getLast?_cons, List.getLastD_eq_getLast?]
  exact ⟨gap, run, after, by rw [equal, List.append_assoc], blank, size,
    ended _ isLast, runTiled⟩

end Term

namespace Expr

open Nesting (outside)

/-! ## Splitters that come to a leaf -/

/-- A splitter that starts at `start`, for the whole expression or for a group in it,
comes to the text `condition` at the span when it has read `before`. -/
structure Reaches (source : List Char) (span : Span) (condition : List Char) (start : Nat)
    (before : List Char) : Prop where
  part : ∃ after, Part source start (before ++ condition ++ after)
  isStart : span.start = start + Text.byteSize before
  isStop : span.stop = span.start + Text.byteSize condition

section Reaches

variable {source condition before before' : List Char} {span : Span} {start start' : Nat}

theorem Reaches.covers (reaches : Reaches source span condition start before) :
    span.Covers source condition := by
  rcases reaches.part with ⟨after, part⟩
  rcases part.exists_around with ⟨front, back, _, equal, size, _⟩
  have isStart : span.start = Text.byteSize (front ++ before) := by
    rw [reaches.isStart, Text.byteSize_append, size]
  exact ⟨front ++ before, after ++ back, by simp [equal], isStart,
    by rw [reaches.isStop, isStart]⟩

theorem Reaches.exists_level (reaches : Reaches source span condition start before)
    (closed : Nesting.Balanced before) (balanced : Nesting.Balanced source)
    (reaches' : Reaches source span condition start' before') :
    ∃ level, outside.scan? before' = some (outside.lower level) := by
  rcases reaches.part with ⟨after, part⟩
  rcases reaches'.part with ⟨after', part'⟩
  rcases part.exists_around with ⟨front, back, level, equal, size, scanned⟩
  rcases part'.exists_around with ⟨front', back', level', equal', size', scanned'⟩
  have sameStart :
      Text.byteSize (front ++ before) = Text.byteSize (front' ++ before') := by
    rw [Text.byteSize_append, Text.byteSize_append, size, size', ← reaches.isStart,
      ← reaches'.isStart]
  have regrouped : (front ++ before) ++ (condition ++ after ++ back) =
      (front' ++ before') ++ (condition ++ after' ++ back') := by
    have same := equal.symm.trans equal'
    simpa only [List.append_assoc] using same
  have sameFront := (Text.append_inj_of_byteSize regrouped sameStart).1
  -- From the start of the source both have read the same.
  have whole : outside.scan? (front' ++ before') = some (outside.lower level) := by
    rw [← sameFront, Nesting.scan?_append, scanned, Option.bind_some,
      Nesting.scan?_lower closed]
  have inner := part'.balanced balanced
  rw [Nesting.Balanced, List.append_assoc, Nesting.scan?_append,
    Option.bind_eq_some_iff] at inner
  rcases inner with ⟨position, reads, _⟩
  rw [Nesting.scan?_append, scanned', Option.bind_some, Nesting.scan?_lower reads,
    Option.some.injEq] at whole
  have plain : position.quoting = .plain := congrArg Nesting.quoting whole
  refine ⟨position.depth, ?_⟩
  rw [reads]
  rcases position with ⟨depth, quoting⟩
  simp only at plain
  rw [plain, Nesting.lower, outside, Nat.zero_add]

end Reaches

end Expr

namespace Level

open Term (Tiled)

theorem read_run {first : Term} {others : List Term} {run : List Char}
    (kind : first.kind = .word)
    (joined : ∀ term ∈ others, ∀ connective, term.kind ≠ .connective connective)
    (tiled : Tiled first.start run (first :: others))
    (ended : first.start + Text.byteSize run = (others.getLastD first).stop) :
    Expr.read run = .ok (.leaf ⟨0, Text.byteSize run⟩) := by
  have reads := Reads.single (.run kind joined)
  have filled := Expr.filled_of_reads tiled reads
  have asPart : Expr.readPart run first.start run =
      .ok (.leaf ⟨first.start, (others.getLastD first).stop⟩) :=
    (readPart_eq_ok_iff (Term.split_eq_ok_iff.mpr tiled) filled).mpr reads
  rw [Expr.readPart_eq_map_shift tiled.balanced] at asPart
  cases result : Expr.read run with
  | error error =>
      rw [result] at asPart
      cases asPart
  | ok expr =>
      rw [result] at asPart
      have shifted : expr.shift first.start =
          .leaf ⟨first.start, (others.getLastD first).stop⟩ := Except.ok.inj asPart
      cases expr with
      | leaf span =>
          rcases span with ⟨start, stop⟩
          simp only [Expr.shift, Span.shift, Expr.leaf.injEq, Span.mk.injEq] at shifted
          have startZero : start = 0 := by omega
          have stopSize : stop = Text.byteSize run := by omega
          rw [startZero, stopSize]
      | not inner => cases shifted
      | connect connective left right => cases shifted

/-- Every leaf is an expression with a single leaf by itself, and a splitter comes to it
that has nothing open there. -/
theorem Reads.leaves_reached {form : Form} {terms : List Term} {expr : Expr}
    (reads : Reads form terms expr) {source text : List Char} {start : Nat}
    {all : List Term} (part : Expr.Part source start text) (tiled : Tiled start text all)
    (within : terms <:+: all) :
    ∀ span ∈ expr.leaves, ∃ condition start before,
      Expr.Reaches source span condition start before ∧ Nesting.Balanced before ∧
      Expr.read condition = .ok (.leaf ⟨0, Text.byteSize condition⟩) := by
  induction reads generalizing start text all with
  | @negation term rest _ _ _ induction =>
      exact induction part tiled ((List.suffix_cons term rest).isInfix.trans within)
  | group kind _ splits _ induction =>
      have member := within.subset (List.mem_singleton_self _)
      have inner := part.group (Term.split_eq_ok_iff.mpr tiled) member kind
      exact induction inner (Term.split_eq_ok_iff.mp splits) List.infix_rfl
  | @run first others kind joined =>
      rcases within with ⟨front, back, rfl⟩
      rw [List.append_assoc] at tiled
      rcases tiled.exists_split with ⟨left, right, rfl, leftTiled, rightTiled, _⟩
      rcases rightTiled.exists_split with ⟨middle, rest, rfl, middleTiled, _, _⟩
      rcases middleTiled.exists_run with
        ⟨gap, run, more, rfl, blank, size, ended, runTiled⟩
      have gapBalanced : Nesting.Balanced gap := (Term.tiled_of_allBlank blank 0).balanced
      intro span member
      rw [Expr.leaves, List.mem_singleton] at member
      rw [member]
      refine ⟨run, start, left ++ gap, ⟨⟨more ++ rest, ?_⟩, ?_, ended.symm⟩,
        leftTiled.balanced.append gapBalanced, read_run kind joined runTiled ended⟩
      · simpa only [List.append_assoc] using part
      · rw [Text.byteSize_append, ← Nat.add_assoc, size]
  | single _ induction => exact induction part tiled within
  | @connect before after term _ _ _ _ _ _ induction inductionNext =>
      have front : before <:+: before ++ term :: after :=
        (List.prefix_append before (term :: after)).isInfix
      have back : after <:+ before ++ term :: after :=
        (List.suffix_cons term after).trans (List.suffix_append before (term :: after))
      intro span member
      rcases List.mem_append.mp member with member | member
      · exact induction part tiled (front.trans within) span member
      · exact inductionNext part tiled (back.isInfix.trans within) span member

end Level

/-- Every leaf of an expression covers a text that is an expression by itself, with that
leaf as all of its tree. -/
theorem Expr.leaves_alone {source : List Char} {expr : Expr}
    (result : read source = .ok expr) :
    ∀ span ∈ expr.leaves, ∃ condition, span.Covers source condition ∧
      read condition = .ok (.leaf ⟨0, Text.byteSize condition⟩) := by
  rcases read_eq_ok_iff.mp result with ⟨terms, tiled, reads⟩
  intro span member
  rcases reads.leaves_reached .whole tiled List.infix_rfl span member with
    ⟨condition, start, before, reaches, _, alone⟩
  exact ⟨condition, reaches.covers, alone⟩

end Criteria
