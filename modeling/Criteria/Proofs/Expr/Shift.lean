import Criteria.Proofs.Expr.Part

/-!
Texts at another offset.

Where a text starts makes no difference to its terms, to its tree and to its faults, but
that their offsets move with it. So what stands in the parentheses of a group is read as
it would be read alone.
-/

namespace Criteria

def Span.shift (bytes : Nat) (span : Span) : Span :=
  ⟨bytes + span.start, bytes + span.stop⟩

namespace Term

def shift (bytes : Nat) (term : Term) : Term :=
  { term with start := bytes + term.start }

theorem stop_shift (bytes : Nat) (term : Term) :
    (term.shift bytes).stop = bytes + term.stop :=
  Nat.add_assoc ..

theorem Tiled.shift {start : Nat} {text : List Char} {terms : List Term}
    (tiled : Tiled start text terms) (bytes : Nat) :
    Tiled (bytes + start) text (terms.map (Term.shift bytes)) := by
  induction tiled with
  | nil => exact .nil
  | blank blank _ induction =>
      rw [← Nat.add_assoc] at induction
      exact .blank blank induction
  | @term term rest terms wellFormed ends _ induction =>
      rw [← stop_shift] at induction
      exact .term (wellFormed.relocate _) ends induction

end Term

namespace Expr

def shift (bytes : Nat) : Expr → Expr
  | .leaf span => .leaf (span.shift bytes)
  | .not inner => .not (inner.shift bytes)
  | .connect connective left right =>
      .connect connective (left.shift bytes) (right.shift bytes)

@[simp] theorem shift_zero (expr : Expr) : expr.shift 0 = expr := by
  induction expr with
  | leaf span => simp [shift, Span.shift]
  | not inner induction => rw [shift, induction]
  | connect connective left right leftInduction rightInduction =>
      rw [shift, leftInduction, rightInduction]

end Expr

namespace Level

theorem Reads.shift {form : Form} {terms : List Term} {expr : Expr}
    (reads : Reads form terms expr) (bytes : Nat) :
    Reads form (terms.map (Term.shift bytes)) (expr.shift bytes) := by
  induction reads with
  | negation kind _ induction => exact .negation kind induction
  | group kind filled splits _ induction =>
      have moved := (Term.split_eq_ok_iff.mp splits).shift bytes
      rw [← Nat.add_assoc] at moved
      exact .group kind filled (Term.split_eq_ok_iff.mpr moved) induction
  | @run first others kind joined =>
      have stays : ∀ term ∈ others.map (Term.shift bytes), ∀ connective,
          term.kind ≠ .connective connective := by
        rw [List.forall_mem_map]
        exact joined
      have last : (others.map (Term.shift bytes)).getLastD (first.shift bytes) =
          (others.getLastD first).shift bytes := by
        rw [List.getLastD_eq_getLast?, List.getLastD_eq_getLast?, List.getLast?_map,
          Option.getD_map]
      have isWord : (first.shift bytes).kind = .word := kind
      have run := Reads.run isWord stays
      rw [last, Term.stop_shift] at run
      exact run
  | single _ induction => exact .single induction
  | connect _ kind _ induction inductionNext =>
      rw [List.map_append, List.map_cons]
      exact .connect induction kind inductionNext

theorem Faults.shift {form : Form} {level : String} {terms : List Term}
    {error : EvaluationError} (faults : Faults form level terms error) (bytes : Nat) :
    Faults form level (terms.map (Term.shift bytes)) error := by
  induction faults with
  | missing => exact .missing
  | connective kind => exact .connective kind
  | negation kind _ induction => exact .negation kind induction
  | emptyGroup kind blank => exact .emptyGroup kind blank
  | insideGroup kind filled splits _ induction =>
      have moved := (Term.split_eq_ok_iff.mp splits).shift bytes
      rw [← Nat.add_assoc] at moved
      exact .insideGroup kind filled (Term.split_eq_ok_iff.mpr moved) induction
  | afterGroup reads kind unconnected =>
      exact .afterGroup (reads.shift bytes) kind unconnected
  | first _ induction => exact .first induction
  | later reads kind _ induction =>
      rw [List.map_append, List.map_cons]
      exact .later (reads.shift bytes) kind induction

end Level

namespace Expr

/-- A part without a fault of quotes or parentheses is read like a whole expression. -/
theorem readPart_eq_map_shift {text : List Char} (balanced : Nesting.Balanced text)
    (source : List Char) (start : Nat) :
    readPart source start text = (read text).map (shift start) := by
  cases blank : Text.allBlank text with
  | true => rw [read, readPart_of_allBlank blank, readPart_of_allBlank blank, Except.map]
  | false =>
      rcases Term.exists_tiled_of_balanced balanced 0 with ⟨terms, tiled⟩
      have splits := Term.split_eq_ok_iff.mpr tiled
      have moved := Term.split_eq_ok_iff.mpr (tiled.shift start)
      rcases Level.reads_or_faults tiled (String.ofList (Text.trim text)) with
        ⟨expr, reads⟩ | ⟨error, faults⟩
      · rw [read, (Level.readPart_eq_ok_iff splits blank).mpr reads]
        exact (Level.readPart_eq_ok_iff moved blank).mpr (reads.shift start)
      · rw [read, (Level.readPart_eq_error_iff splits blank).mpr faults]
        exact (Level.readPart_eq_error_iff moved blank).mpr (faults.shift start)

end Expr

end Criteria
