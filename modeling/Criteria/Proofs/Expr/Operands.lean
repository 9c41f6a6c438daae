import Criteria.Proofs.Expr.Shift
import Criteria.Proofs.Text.Blank

/-!
The operands of a level.

The tree of a level is made of those of its operands. So what stands between two
connectives of a level that can be read is an operand by itself, and every leaf that it
has is a leaf of the level.
-/

namespace Criteria.Level

def operands (terms : List Term) : List (List Term) :=
  (segments terms).1 :: (segments terms).2.map Prod.snd

theorem operands_of_unconnected {terms : List Term}
    (unconnected : ∀ term ∈ terms, ∀ connective, term.kind ≠ .connective connective) :
    operands terms = [terms] := by
  rw [operands, segments_of_unconnected unconnected]
  rfl

theorem operands_append {before after : List Term} {term : Term} {connective : Connective}
    (kind : term.kind = .connective connective) :
    operands (before ++ term :: after) = operands before ++ operands after := by
  simp [operands, segments_append kind]

/-! ## Where an operand starts and ends -/

theorem mem_operands {before middle after : List Term}
    (unconnected : ∀ term ∈ middle, ∀ connective, term.kind ≠ .connective connective)
    (starts : ∀ last ∈ before.getLast?, ∃ connective, last.kind = .connective connective)
    (stops : ∀ next ∈ after.head?, ∃ connective, next.kind = .connective connective) :
    middle ∈ operands (before ++ middle ++ after) :=
  Text.mem_pieces starts stops (fun _ _ _ ⟨_, kind⟩ => operands_append kind)
    (operands_of_unconnected unconnected)

theorem exists_before_segment (terms : List Term) :
    ∃ before segment, terms = before ++ segment ∧
      (∀ term ∈ segment, ∀ connective, term.kind ≠ .connective connective) ∧
      ∀ last ∈ before.getLast?, ∃ connective, last.kind = .connective connective := by
  induction terms with
  | nil => exact ⟨[], [], rfl, by simp, by simp⟩
  | cons head rest induction =>
      rcases induction with ⟨before, segment, rfl, unconnected, starts⟩
      rcases List.eq_nil_or_concat before with rfl | ⟨others, last, rfl⟩
      · by_cases connected : ∃ connective, head.kind = .connective connective
        · exact ⟨[head], segment, rfl, unconnected, by simpa using connected⟩
        · refine ⟨[], head :: segment, rfl, ?_, by simp⟩
          rw [List.forall_mem_cons]
          exact ⟨not_exists.mp connected, unconnected⟩
      · refine ⟨head :: others.concat last, segment, rfl, unconnected, ?_⟩
        rw [List.concat_eq_append] at starts ⊢
        rw [← List.cons_append, List.getLast?_concat]
        rw [List.getLast?_concat] at starts
        exact starts

/-! ## Operands and their leaves -/

theorem Reads.exists_operand {terms segment : List Term} {expr : Expr}
    (reads : Reads .chain terms expr) (member : segment ∈ operands terms) :
    ∃ operand, Reads .operand segment operand ∧ ∀ span ∈ operand.leaves,
      span ∈ expr.leaves := by
  generalize isChain : Form.chain = form at reads
  induction reads with
  | negation => cases isChain
  | group => cases isChain
  | run => cases isChain
  | single reads =>
      rw [operands_of_unconnected reads.unconnected, List.mem_singleton] at member
      subst member
      exact ⟨_, reads, fun _ inLeaves => inLeaves⟩
  | connect _ kind readsNext induction =>
      rw [operands_append kind, List.mem_append] at member
      rcases member with inLeft | isRight
      · rcases induction inLeft rfl with ⟨operand, reads, leaves⟩
        exact ⟨operand, reads, fun span inOperand =>
          List.mem_append_left _ (leaves span inOperand)⟩
      · rw [operands_of_unconnected readsNext.unconnected, List.mem_singleton] at isRight
        subst isRight
        exact ⟨_, readsNext, fun _ inLeaves => List.mem_append_right _ inLeaves⟩

theorem Reads.operand_cases {term : Term} {rest : List Term} {expr : Expr}
    (reads : Reads .operand (term :: rest) expr) :
    (term.kind = .negation ∧ ∃ inner, expr = .not inner ∧ Reads .operand rest inner) ∨
      (term.kind = .group ∧ rest = []) ∨
      (term.kind = .word ∧ expr = .leaf ⟨term.start, (rest.getLastD term).stop⟩) := by
  cases reads with
  | negation kind inner => exact .inl ⟨kind, _, rfl, inner⟩
  | group kind => exact .inr (.inl ⟨kind, rfl⟩)
  | run kind => exact .inr (.inr ⟨kind, rfl⟩)

theorem Reads.leaves_of_append {front back : List Term} {expr whole : Expr}
    {last final : Term} (reads : Reads .operand front expr)
    (readsWhole : Reads .operand (front ++ back) whole)
    (isLast : front.getLast? = some last) (isFinal : back.getLast? = some final) :
    ∃ start, expr.leaves = [⟨start, last.stop⟩] ∧
      whole.leaves = [⟨start, final.stop⟩] := by
  induction front generalizing expr whole with
  | nil => exact absurd rfl reads.ne_nil
  | cons term rest induction =>
      rw [List.cons_append] at readsWhole
      rcases reads.operand_cases with ⟨kind, inner, rfl, readsRest⟩ | ⟨kind, rfl⟩
        | ⟨kind, rfl⟩
      · rcases readsWhole.operand_cases with ⟨_, _, rfl, readsMore⟩ | ⟨isGroup, _⟩
          | ⟨isWord, _⟩
        · cases rest with
          | nil => exact absurd rfl readsRest.ne_nil
          | cons next others =>
              rw [List.getLast?_cons_cons] at isLast
              have leaves := induction readsRest readsMore isLast
              exact leaves
        · cases kind.symm.trans isGroup
        · cases kind.symm.trans isWord
      · -- A group is all of its operand, so nothing can follow it.
        rcases readsWhole.operand_cases with ⟨isNegation, _⟩ | ⟨_, nothing⟩ | ⟨isWord, _⟩
        · cases kind.symm.trans isNegation
        · rw [List.nil_append] at nothing
          subst nothing
          cases isFinal
        · cases kind.symm.trans isWord
      · rcases readsWhole.operand_cases with ⟨isNegation, _⟩ | ⟨isGroup, _⟩ | ⟨_, rfl⟩
        · cases kind.symm.trans isNegation
        · cases kind.symm.trans isGroup
        · have lastEq : rest.getLastD term = last := by
            rw [List.getLast?_cons, Option.some.injEq,
              ← List.getLastD_eq_getLast?] at isLast
            exact isLast
          have finalEq : (rest ++ back).getLastD term = final := by
            rw [List.getLastD_eq_getLast?, List.getLast?_append, isFinal]
            rfl
          rw [lastEq, finalEq]
          exact ⟨term.start, rfl, rfl⟩

theorem Reads.exists_negation {terms : List Term} {expr : Expr} {term : Term}
    (reads : Reads .chain terms expr) (kind : term.kind = .negation) :
    ∃ negated, Reads .chain (term :: terms) negated ∧ negated.leaves = expr.leaves := by
  generalize isChain : Form.chain = form at reads
  induction reads with
  | negation => cases isChain
  | group => cases isChain
  | run => cases isChain
  | single reads => exact ⟨_, .single (.negation kind reads), rfl⟩
  | @connect before after _ _ _ right _ isConnective readsNext induction =>
      rcases induction rfl with ⟨negated, reads, leaves⟩
      exact ⟨_, .connect reads isConnective readsNext,
        congrArg (· ++ right.leaves) leaves⟩

/-! ## Two levels in a row -/

/-- Without a connective between two levels the last operand of the first one and the
first operand of the second one are one operand, with a single leaf. -/
theorem Reads.exists_joined {terms others : List Term} {leftExpr rightExpr expr : Expr}
    {bytes : Nat} (leftReads : Reads .chain terms leftExpr)
    (rightReads : Reads .chain others rightExpr)
    (reads : Reads .chain (terms ++ others.map (Term.shift bytes)) expr) :
    ∃ back after backExpr start last final, others = back ++ after ∧
      Reads .operand back backExpr ∧
      (∀ span ∈ backExpr.leaves, span ∈ rightExpr.leaves) ∧
      terms.getLast? = some last ∧ ⟨start, last.stop⟩ ∈ leftExpr.leaves ∧
      back.getLast? = some final ∧ ⟨start, bytes + final.stop⟩ ∈ expr.leaves := by
  rcases exists_before_segment terms with ⟨before, front, rfl, frontJoined, starts⟩
  rcases exists_after_segment others with ⟨after, othersEq, backJoined, stops⟩
  generalize (segments others).1 = back at othersEq backJoined
  subst othersEq
  have isFront : front ∈ operands (before ++ front ++ []) :=
    mem_operands frontJoined starts (by simp)
  have isBack : back ∈ operands ([] ++ back ++ after) :=
    mem_operands backJoined (by simp) stops
  have isJoined : front ++ back.map (Term.shift bytes) ∈ operands
      (before ++ (front ++ back.map (Term.shift bytes)) ++
        after.map (Term.shift bytes)) := by
    apply mem_operands
    · rw [List.forall_mem_append, List.forall_mem_map]
      exact ⟨frontJoined, backJoined⟩
    · exact starts
    · rw [List.head?_map]
      intro next isHead
      rcases Option.map_eq_some_iff.mp isHead with ⟨next', isHead', rfl⟩
      exact stops next' isHead'
  rw [List.append_nil] at isFront
  rw [List.map_append, ← List.append_assoc, List.append_assoc before] at reads
  rcases leftReads.exists_operand isFront with ⟨frontExpr, frontReads, frontLeaves⟩
  rcases rightReads.exists_operand isBack with ⟨backExpr, backReads, backLeaves⟩
  rcases reads.exists_operand isJoined with ⟨joinedExpr, joinedReads, joinedLeaves⟩
  cases isLast : front.getLast? with
  | none => exact absurd (List.getLast?_eq_none_iff.mp isLast) frontReads.ne_nil
  | some last =>
      cases isFinal : back.getLast? with
      | none => exact absurd (List.getLast?_eq_none_iff.mp isFinal) backReads.ne_nil
      | some final =>
          have isFinal' :
              (back.map (Term.shift bytes)).getLast? = some (final.shift bytes) := by
            rw [List.getLast?_map, isFinal]
            rfl
          rcases frontReads.leaves_of_append joinedReads isLast isFinal' with
            ⟨start, frontLeaf, joinedLeaf⟩
          refine ⟨back, after, backExpr, start, last, final, rfl, backReads, backLeaves,
            ?_, frontLeaves _ ?_, isFinal, joinedLeaves _ ?_⟩
          · rw [List.getLast?_append, isLast]
            rfl
          · rw [frontLeaf]
            exact List.mem_singleton_self _
          · rw [joinedLeaf, Term.stop_shift]
            exact List.mem_singleton_self _

end Criteria.Level
