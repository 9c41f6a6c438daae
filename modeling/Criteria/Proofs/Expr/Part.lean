import Criteria.Proofs.Expr.Grammar
import Criteria.Proofs.Term.Placement

/-!
The parts of an expression, and the faults of its quotes and parentheses.

A fault of quotes or parentheses is a fault of the whole text and comes before every
other fault. Where the whole has none, no part has one, at whatever depth.
-/

namespace Criteria

namespace EvaluationError

def IsEnclosure : EvaluationError → Prop
  | .unterminatedQuote _ => True
  | .unbalancedParentheses _ => True
  | _ => False

end EvaluationError

theorem Level.Faults.not_isEnclosure {form : Form} {level : String} {terms : List Term}
    {error : EvaluationError} (faults : Faults form level terms error) :
    ¬ error.IsEnclosure := by
  induction faults with
  | missing => exact id
  | connective => exact id
  | negation _ _ induction => exact induction
  | emptyGroup => exact id
  | insideGroup _ _ _ _ induction => exact induction
  | afterGroup => exact id
  | first _ induction => exact induction
  | later _ _ _ induction => exact induction

namespace Expr

/-- The whole expression, and what stands in the parentheses of any group of a part. -/
inductive Part (source : List Char) : Nat → List Char → Prop
  | whole : Part source 0 source
  | group {start : Nat} {text : List Char} {terms : List Term} {term : Term}
      (part : Part source start text) (splits : Term.split start text = .ok terms)
      (member : term ∈ terms) (kind : term.kind = .group) :
      Part source (term.start + 1) term.inner

theorem Part.balanced {source text : List Char} {start : Nat}
    (part : Part source start text) (balanced : Nesting.Balanced source) :
    Nesting.Balanced text := by
  cases part with
  | whole => exact balanced
  | group part splits member kind =>
      exact (((Term.split_eq_ok_iff.mp splits).wellFormed member).of_group kind).2

theorem Part.exists_around {source text : List Char} {start : Nat}
    (part : Part source start text) :
    ∃ before after level, source = before ++ text ++ after ∧
      Text.byteSize before = start ∧
      Nesting.outside.scan? before = some (Nesting.outside.lower level) := by
  induction part with
  | whole => exact ⟨[], [], 0, by simp, rfl, rfl⟩
  | @group start text terms term _ splits member kind induction =>
      rcases induction with ⟨before, after, level, equal, size, scanned⟩
      have tiled := Term.split_eq_ok_iff.mp splits
      rcases tiled.exists_around member with ⟨front, back, textEq, located, balanced⟩
      have isGroup := ((tiled.wellFormed member).of_group kind).1
      refine ⟨before ++ front ++ ['('], ')' :: (back ++ after), level + 1, ?_, ?_, ?_⟩
      · rw [equal, textEq, isGroup]
        simp [Nesting.parenthesize]
      · rw [Text.byteSize_append, Text.byteSize_append, size, located]
        rfl
      · rw [Nesting.scan?_append, Nesting.scan?_append, scanned, Option.bind_some,
          Nesting.scan?_lower balanced]
        rfl

theorem readPart_of_fault {source text : List Char} {start : Nat} {fault : Term.Fault}
    (faulty : Term.split start text = .error fault) :
    readPart source start text = .error (fault.error source) := by
  rw [readPart]
  split
  · rename_i found faulty'
    cases faulty.symm.trans faulty'
    rfl
  · rename_i terms splits
    cases faulty.symm.trans splits

theorem readPart_of_allBlank {source text : List Char} {start : Nat}
    (blank : Text.allBlank text = true) :
    readPart source start text = .error (.empty (String.ofList (Text.trim text))) := by
  have none := Term.split_eq_ok_iff.mpr (Term.tiled_of_allBlank blank start)
  rw [readPart]
  split
  · rename_i found faulty
    cases none.symm.trans faulty
  · rename_i terms splits
    cases none.symm.trans splits
    rfl

theorem filled_of_reads {start : Nat} {text : List Char} {terms : List Term} {expr : Expr}
    (tiled : Term.Tiled start text terms) (reads : Level.Reads .chain terms expr) :
    Text.allBlank text = false := by
  cases blank : Text.allBlank text with
  | false => rfl
  | true =>
      have none := Term.split_eq_ok_iff.mpr (Term.tiled_of_allBlank blank start)
      cases none.symm.trans (Term.split_eq_ok_iff.mpr tiled)
      exact absurd rfl reads.ne_nil

theorem read_eq_ok_iff {source : List Char} {expr : Expr} :
    read source = .ok expr ↔
      ∃ terms, Term.Tiled 0 source terms ∧ Level.Reads .chain terms expr := by
  constructor
  · intro result
    cases splits : Term.split 0 source with
    | error fault => cases (readPart_of_fault splits).symm.trans result
    | ok terms =>
        cases blank : Text.allBlank source with
        | true => cases (readPart_of_allBlank blank).symm.trans result
        | false =>
            exact ⟨terms, Term.split_eq_ok_iff.mp splits,
              (Level.readPart_eq_ok_iff splits blank).mp result⟩
  · rintro ⟨terms, tiled, reads⟩
    have splits := Term.split_eq_ok_iff.mpr tiled
    exact (Level.readPart_eq_ok_iff splits (filled_of_reads tiled reads)).mpr reads

theorem readPart_not_isEnclosure {source text : List Char} {start : Nat}
    {error : EvaluationError} (balanced : Nesting.Balanced text)
    (result : readPart source start text = .error error) :
    ¬ error.IsEnclosure := by
  cases blank : Text.allBlank text with
  | true =>
      cases (readPart_of_allBlank blank).symm.trans result
      exact id
  | false =>
      rcases Term.exists_tiled_of_balanced balanced start with ⟨terms, tiled⟩
      have splits := Term.split_eq_ok_iff.mpr tiled
      exact ((Level.readPart_eq_error_iff splits blank).mp result).not_isEnclosure

theorem read_eq_enclosure_error_iff {source : List Char} {error : EvaluationError}
    (isEnclosure : error.IsEnclosure) :
    read source = .error error ↔
      ∃ fault, (Enclosure.of source).fault? = some fault ∧
        error = fault.error source := by
  cases split : Term.split 0 source with
  | error fault =>
      have faulty := Term.split_eq_error_iff.mp split
      rw [read, readPart_of_fault split, faulty]
      simp [eq_comm]
  | ok terms =>
      have balanced := (Term.split_eq_ok_iff.mp split).balanced
      rw [Enclosure.of_eq_complete_iff.mpr balanced]
      simp only [Enclosure.fault?, reduceCtorEq, false_and, exists_false, iff_false]
      intro result
      exact readPart_not_isEnclosure balanced result isEnclosure

/-- The errors of quotes and parentheses are exact: each has its own enclosures of the
whole text, where it comes before all other faults. Where the whole text is complete, no
part has such an error. -/
theorem read_reports_enclosure (source : List Char) :
    (∀ quoted, read source = .error (.unbalancedParentheses quoted) ↔
      (Enclosure.of source = .strayParenthesis ∨ Enclosure.of source = .openParenthesis) ∧
        quoted = String.ofList (Text.trim source)) ∧
    (∀ quoted, read source = .error (.unterminatedQuote quoted) ↔
      Enclosure.of source = .openQuote ∧ quoted = String.ofList (Text.trim source)) ∧
    (Enclosure.of source = .complete → ∀ start text, Part source start text → ∀ quoted,
      readPart source start text ≠ .error (.unbalancedParentheses quoted) ∧
        readPart source start text ≠ .error (.unterminatedQuote quoted)) := by
  refine ⟨?_, ?_, ?_⟩
  · intro quoted
    have isEnclosure : (EvaluationError.unbalancedParentheses quoted).IsEnclosure :=
      trivial
    rw [read_eq_enclosure_error_iff isEnclosure]
    cases Enclosure.of source <;> simp [Enclosure.fault?, Term.Fault.error]
  · intro quoted
    have isEnclosure : (EvaluationError.unterminatedQuote quoted).IsEnclosure := trivial
    rw [read_eq_enclosure_error_iff isEnclosure]
    cases Enclosure.of source <;> simp [Enclosure.fault?, Term.Fault.error]
  · intro complete start text part quoted
    have balanced := part.balanced (Enclosure.of_eq_complete_iff.mp complete)
    exact ⟨fun result => readPart_not_isEnclosure balanced result trivial,
      fun result => readPart_not_isEnclosure balanced result trivial⟩

/-- The stray parenthesis comes before the missing operand on its left and the open
quote on its right. Either error quotes the text without the blanks around it. -/
theorem read_reports_enclosure_of_three_faults :
    Enclosure.of "\ta OR ) \"b ".toList = .strayParenthesis ∧
      read "\ta OR ) \"b ".toList = .error (.unbalancedParentheses "a OR ) \"b") ∧
      read " a OR (\")\n".toList = .error (.unterminatedQuote "a OR (\")") := by
  have stray : Enclosure.of "\ta OR ) \"b ".toList = .strayParenthesis := by
    decide +kernel
  have openQuote : Enclosure.of " a OR (\")\n".toList = .openQuote := by decide +kernel
  exact ⟨stray, ((read_reports_enclosure _).1 _).mpr ⟨.inl stray, by decide +kernel⟩,
    ((read_reports_enclosure _).2.1 _).mpr ⟨openQuote, by decide +kernel⟩⟩

end Expr

end Criteria
