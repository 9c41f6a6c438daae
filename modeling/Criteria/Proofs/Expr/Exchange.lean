import Criteria.Proofs.Expr.Leaves
import Criteria.Proofs.Term.Exchange

/-!
Expressions that differ in one quoted text.

What stands in quotes has no influence on how an expression is read. With another text
in the quotes the tree is the same but for the offsets behind the quotation, and so is
the kind of the error where there is no tree. Of the conditions only the one that holds
the quotation changes, and there only the quotation does.
-/

namespace Criteria

open Text (quote byteSize)

namespace EvaluationError

def SameKind : EvaluationError → EvaluationError → Prop
  | .unterminatedQuote _, .unterminatedQuote _ => True
  | .unbalancedParentheses _, .unbalancedParentheses _ => True
  | .empty _, .empty _ => True
  | .incomplete _, .incomplete _ => True
  | .malformedCondition _, .malformedCondition _ => True
  | .wrongArguments _, .wrongArguments _ => True
  | .unknownFunction _, .unknownFunction _ => True
  | .wrongOperand _ _, .wrongOperand _ _ => True
  | _, _ => False

end EvaluationError

namespace Expr

/-- The tree with all its offsets outside the quotation moved. -/
def exchange (exchange : Exchange) : Expr → Expr
  | .leaf span => .leaf (exchange.span span)
  | .not inner => .not (inner.exchange exchange)
  | .connect connective left right =>
      .connect connective (left.exchange exchange) (right.exchange exchange)

end Expr

namespace Level

open Term (Exchanged Tiled)

variable {swap : Exchange}

/-! ## Levels -/

theorem Reads.exchange {form : Form} {terms terms' : List Term} {expr : Expr}
    (reads : Reads form terms expr) (all : List.Forall₂ (Exchanged swap) terms terms')
    (wellFormed : ∀ term ∈ terms, term.WellFormed) :
    Reads form terms' (expr.exchange swap) := by
  induction reads generalizing terms' with
  | negation kind _ induction =>
      rw [List.forall_mem_cons] at wellFormed
      cases all with
      | cons exchanged all =>
          exact .negation (exchanged.kind_eq.trans kind) (induction all wellFormed.2)
  | group kind filled splits _ induction =>
      rw [List.forall_mem_singleton] at wellFormed
      cases all with
      | cons exchanged none =>
          cases none
          have tiled := Term.split_eq_ok_iff.mp splits
          rcases exchanged.exists_inside wellFormed kind tiled with ⟨inside, tiled', all⟩
          exact .group (exchanged.kind_eq.trans kind)
            ((exchanged.allBlank_inner wellFormed kind).trans filled)
            (Term.split_eq_ok_iff.mpr tiled')
            (induction all fun _ member => tiled.wellFormed member)
  | @run first others kind joined =>
      cases all with
      | cons exchanged all =>
          have run := Reads.run (exchanged.kind_eq.trans kind)
            (Exchanged.unconnected all joined)
          rw [exchanged.start_eq, (exchanged.getLastD all).stop_eq] at run
          exact run
  | single _ induction => exact .single (induction all wellFormed)
  | connect _ kind _ induction inductionNext =>
      rw [List.forall_mem_append, List.forall_mem_cons] at wellFormed
      rcases Exchanged.exists_append all with ⟨before', after', rfl, allBefore, allAfter⟩
      cases allAfter with
      | cons exchanged allAfter =>
          exact .connect (induction allBefore wellFormed.1) (exchanged.kind_eq.trans kind)
            (inductionNext allAfter wellFormed.2.2)

theorem Faults.exchange {form : Form} {level : String} {terms terms' : List Term}
    {error : EvaluationError} (faults : Faults form level terms error)
    (all : List.Forall₂ (Exchanged swap) terms terms')
    (wellFormed : ∀ term ∈ terms, term.WellFormed) (level' : String) :
    ∃ error', Faults form level' terms' error' ∧ error.SameKind error' := by
  induction faults generalizing terms' level' with
  | missing =>
      cases all
      exact ⟨_, .missing, trivial⟩
  | connective kind =>
      cases all with
      | cons exchanged _ => exact ⟨_, .connective (exchanged.kind_eq.trans kind), trivial⟩
  | negation kind _ induction =>
      rw [List.forall_mem_cons] at wellFormed
      cases all with
      | cons exchanged all =>
          rcases induction all wellFormed.2 level' with ⟨error', faults, same⟩
          exact ⟨error', .negation (exchanged.kind_eq.trans kind) faults, same⟩
  | emptyGroup kind blank =>
      rw [List.forall_mem_cons] at wellFormed
      cases all with
      | cons exchanged _ =>
          have blank' := (exchanged.allBlank_inner wellFormed.1 kind).trans blank
          exact ⟨_, .emptyGroup (exchanged.kind_eq.trans kind) blank', trivial⟩
  | insideGroup kind filled splits _ induction =>
      rw [List.forall_mem_cons] at wellFormed
      cases all with
      | cons exchanged _ =>
          have tiled := Term.split_eq_ok_iff.mp splits
          rcases exchanged.exists_inside wellFormed.1 kind tiled with
            ⟨inside, tiled', all⟩
          rcases induction all (fun _ member => tiled.wellFormed member) _ with
            ⟨error', faults, same⟩
          exact ⟨error', .insideGroup (exchanged.kind_eq.trans kind)
            ((exchanged.allBlank_inner wellFormed.1 kind).trans filled)
            (Term.split_eq_ok_iff.mpr tiled') faults, same⟩
  | afterGroup reads kind unconnected =>
      rw [List.forall_mem_cons] at wellFormed
      cases all with
      | cons exchanged all =>
          cases all with
          | cons next _ =>
              have group :=
                reads.exchange (.cons exchanged .nil) (by simpa using wellFormed.1)
              rw [← next.kind_eq] at unconnected
              exact ⟨_, .afterGroup group (exchanged.kind_eq.trans kind) unconnected,
                trivial⟩
  | first _ induction =>
      rcases induction all wellFormed level' with ⟨error', faults, same⟩
      exact ⟨error', .first faults, same⟩
  | later reads kind _ induction =>
      rw [List.forall_mem_append, List.forall_mem_cons] at wellFormed
      rcases Exchanged.exists_append all with ⟨before', after', rfl, allBefore, allAfter⟩
      cases allAfter with
      | cons exchanged allAfter =>
          rcases induction allAfter wellFormed.2.2 level' with ⟨error', faults, same⟩
          exact ⟨error', .later (reads.exchange allBefore wellFormed.1)
            (exchanged.kind_eq.trans kind) faults, same⟩

theorem Reads.leaves_outside {form : Form} {terms terms' : List Term} {expr : Expr}
    (reads : Reads form terms expr) (all : List.Forall₂ (Exchanged swap) terms terms')
    (wellFormed : ∀ term ∈ terms, term.WellFormed) :
    ∀ span ∈ expr.leaves, swap.Apart span.start span.start ∧
      swap.Apart span.stop span.stop := by
  induction reads generalizing terms' with
  | negation _ _ induction =>
      rw [List.forall_mem_cons] at wellFormed
      cases all with
      | cons _ all => exact induction all wellFormed.2
  | group kind _ splits _ induction =>
      rw [List.forall_mem_singleton] at wellFormed
      cases all with
      | cons exchanged _ =>
          have tiled := Term.split_eq_ok_iff.mp splits
          rcases exchanged.exists_inside wellFormed kind tiled with ⟨inside, _, all⟩
          exact induction all fun _ member => tiled.wellFormed member
  | run =>
      cases all with
      | cons exchanged all =>
          rw [Expr.leaves, List.forall_mem_singleton]
          exact ⟨exchanged.start_outside, (exchanged.getLastD all).stop_outside⟩
  | single _ induction => exact induction all wellFormed
  | connect _ _ _ induction inductionNext =>
      rw [List.forall_mem_append, List.forall_mem_cons] at wellFormed
      rcases Exchanged.exists_append all with ⟨before', after', rfl, allBefore, allAfter⟩
      cases allAfter with
      | cons _ allAfter =>
          rw [Expr.leaves, List.forall_mem_append]
          exact ⟨induction allBefore wellFormed.1, inductionNext allAfter wellFormed.2.2⟩

end Level

/-! ## Whole expressions -/

theorem Span.Covers.exchange {span : Span} {swap : Exchange} {left right text : List Char}
    (covers : span.Covers (left ++ quote swap.old ++ right) text)
    (place : swap.place = byteSize left) (startOutside : swap.Apart span.start span.start)
    (stopOutside : swap.Apart span.stop span.stop) :
    (swap.Apart span.start span.stop ∧
      (swap.span span).Covers (left ++ quote swap.new ++ right) text) ∨
    ∃ before after, text = before ++ quote swap.old ++ after ∧
      span.start + byteSize before = swap.place ∧
      (swap.span span).Covers (left ++ quote swap.new ++ right)
        (before ++ quote swap.new ++ after) := by
  rcases span with ⟨start, stop⟩
  rcases covers with ⟨front, back, equal, startEq, stopEq⟩
  simp only at startEq stopEq startOutside stopOutside
  rcases stopOutside with stopBefore | stopBehind
  · -- The part ends before the quotation, and its offsets stay.
    have regrouped : (front ++ text) ++ back = left ++ (quote swap.old ++ right) := by
      rw [← equal, List.append_assoc]
    have shorter : byteSize (front ++ text) ≤ byteSize left := by
      rw [Text.byteSize_append]
      omega
    rcases Text.exists_append_of_byteSize_le regrouped shorter with ⟨between, rfl, _⟩
    have startBefore : start ≤ swap.place := by omega
    exact .inl ⟨.inl stopBefore, front, between ++ quote swap.new ++ right, by simp,
      (Exchange.offset_of_le startBefore).trans startEq,
      (Exchange.offset_of_le stopBefore).trans stopEq⟩
  rcases startOutside with startBefore | startBehind
  · -- The part starts before the quotation and ends behind it.
    have shorter : byteSize front ≤ byteSize left := by omega
    rw [List.append_assoc, List.append_assoc] at equal
    rcases Text.exists_append_of_byteSize_le equal.symm shorter with ⟨before, rfl, textEq⟩
    rw [Text.byteSize_append] at place
    have inside : byteSize (before ++ quote swap.old) ≤ byteSize text := by
      rw [Text.byteSize_append]
      omega
    rw [← List.append_assoc] at textEq
    rcases Text.exists_append_of_byteSize_le textEq.symm inside with ⟨after, rfl, rfl⟩
    simp only [Text.byteSize_append] at stopEq
    refine .inr ⟨before, after, rfl, by rw [place, startEq], front, back, by simp, ?_, ?_⟩
    · exact (Exchange.offset_of_le startBefore).trans startEq
    · refine (Exchange.offset_of_ge stopBehind).trans ?_
      simp only [Text.byteSize_append]
      omega
  · -- The part starts behind the quotation, and its offsets move with it.
    have longer : byteSize (left ++ quote swap.old) ≤ byteSize front := by
      rw [Text.byteSize_append]
      omega
    rw [List.append_assoc front] at equal
    rcases Text.exists_append_of_byteSize_le equal longer with ⟨between, rfl, rfl⟩
    simp only [Text.byteSize_append] at startEq stopEq
    refine .inl ⟨.inr startBehind, left ++ quote swap.new ++ between, back,
      by simp, ?_, ?_⟩
    · refine (Exchange.offset_of_ge startBehind).trans ?_
      simp only [Text.byteSize_append]
      omega
    · refine (Exchange.offset_of_ge stopBehind).trans ?_
      simp only [Text.byteSize_append]
      omega

namespace Expr

theorem split_error_exchange {left right old : List Char} {fault : Term.Fault}
    (outside : Quoting.plain.after left = .plain)
    (faulty : Term.split 0 (left ++ quote old ++ right) = .error fault)
    (new : List Char) :
    Term.split 0 (left ++ quote new ++ right) = .error fault := by
  rw [Term.split_eq_error_iff, Enclosure.of_eq_ofPosition] at faulty ⊢
  rw [Nesting.scan?_append_quote outside] at faulty ⊢
  exact faulty

/-- With another text in the quotes, an expression that cannot be read has an error of
the same kind. One that can be read has the same tree, but for the offsets behind the
quotation. Each condition is apart from the quotation and stays as it is, or it holds
the quotation at its place and has the new one there instead. -/
theorem read_exchange {left : List Char} {swap : Exchange}
    (outside : Quoting.plain.after left = .plain) (place : swap.place = byteSize left)
    (right : List Char) :
    (∃ error error', read (left ++ quote swap.old ++ right) = .error error ∧
      read (left ++ quote swap.new ++ right) = .error error' ∧ error.SameKind error') ∨
    ∃ expr, read (left ++ quote swap.old ++ right) = .ok expr ∧
      read (left ++ quote swap.new ++ right) = .ok (expr.exchange swap) ∧
      ∀ span ∈ expr.leaves,
        (swap.Apart span.start span.stop ∧
          ∃ text, span.slice? (left ++ quote swap.old ++ right) = some text ∧
            (swap.span span).slice? (left ++ quote swap.new ++ right) = some text) ∨
        ∃ before after, span.start + byteSize before = swap.place ∧
          span.slice? (left ++ quote swap.old ++ right) =
            some (before ++ quote swap.old ++ after) ∧
          (swap.span span).slice? (left ++ quote swap.new ++ right) =
            some (before ++ quote swap.new ++ after) := by
  cases splits : Term.split 0 (left ++ quote swap.old ++ right) with
  | error fault =>
      have splits' := split_error_exchange outside splits swap.new
      exact .inl ⟨_, _, readPart_of_fault splits, readPart_of_fault splits',
        by cases fault <;> trivial⟩
  | ok terms =>
      have tiled := Term.split_eq_ok_iff.mp splits
      have wellFormed : ∀ term ∈ terms, term.WellFormed := fun _ member =>
        tiled.wellFormed member
      rcases tiled.exists_exchanged outside (by rw [Nat.zero_add, place]) with
        ⟨terms', tiled', all⟩
      rcases Level.reads_or_faults tiled
        (String.ofList (Text.trim (left ++ quote swap.old ++ right))) with
        ⟨expr, reads⟩ | ⟨error, faults⟩
      · refine .inr ⟨expr, read_eq_ok_iff.mpr ⟨terms, tiled, reads⟩,
          read_eq_ok_iff.mpr ⟨terms', tiled', reads.exchange all wellFormed⟩, ?_⟩
        intro span member
        rcases reads.covers tiled.laid span member with ⟨text, covers, _⟩
        rcases reads.leaves_outside all wellFormed span member with
          ⟨startOutside, stopOutside⟩
        rcases covers.exchange place startOutside stopOutside with
          ⟨apart, covers'⟩ | ⟨before, after, rfl, located, covers'⟩
        · exact .inl ⟨apart, text, covers.slice?_eq, covers'.slice?_eq⟩
        · exact .inr ⟨before, after, located, covers.slice?_eq, covers'.slice?_eq⟩
      · rcases faults.exchange all wellFormed
          (String.ofList (Text.trim (left ++ quote swap.new ++ right))) with
            ⟨error', faults', same⟩
        have splits' := Term.split_eq_ok_iff.mpr tiled'
        exact .inl ⟨error, error',
          (Level.readPart_eq_error_iff splits (Text.allBlank_quote ..)).mpr faults,
          (Level.readPart_eq_error_iff splits' (Text.allBlank_quote ..)).mpr faults',
          same⟩

/-- A lone backslash in the place of parentheses and a connective. -/
theorem read_exchange_of_backslash :
    Quoting.plain.after "a IS NULL AND (b = ".toList = .plain ∧
      read
        ("a IS NULL AND (b = ".toList ++ quote "\\".toList ++ " OR NOT c = 2)".toList) =
        .ok (.connect .and (.leaf ⟨0, 9⟩)
          (.connect .or (.leaf ⟨15, 23⟩) (.not (.leaf ⟨31, 36⟩)))) := by
  have outside : Quoting.plain.after "a IS NULL AND (b = ".toList = .plain := by decide
  have known : read ("a IS NULL AND (b = ".toList ++ quote ") AND (".toList ++
      " OR NOT c = 2)".toList) =
      .ok (.connect .and (.leaf ⟨0, 9⟩)
        (.connect .or (.leaf ⟨15, 28⟩) (.not (.leaf ⟨36, 41⟩)))) := by
    decide +kernel
  have place : (⟨19, ") AND (".toList, "\\".toList⟩ : Exchange).place =
      Text.byteSize "a IS NULL AND (b = ".toList := rfl
  rcases read_exchange outside place " OR NOT c = 2)".toList with
    ⟨_, _, failed, _⟩ | ⟨expr, result, result', _⟩
  · cases failed.symm.trans known
  · cases result.symm.trans known
    exact ⟨outside, result'⟩

end Expr

end Criteria
