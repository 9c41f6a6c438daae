import Criteria.Proofs.Term.Tiling

/-!
Which texts cannot be split into terms, and why.

An enclosure is what there is to say of a text when only its quotes and parentheses
are read. A text is split exactly if it is complete, and otherwise its enclosure
decides the fault.
-/

namespace Criteria

inductive Enclosure where
  | complete
  | strayParenthesis
  | openParenthesis
  | openQuote
  deriving DecidableEq, Repr

namespace Enclosure

mutual

def outsideQuotes : (depth : Nat) → List Char → Enclosure
  | 0, [] => .complete
  | _ + 1, [] => .openParenthesis
  | depth, '"' :: rest => insideQuotes depth rest
  | depth, '(' :: rest => outsideQuotes (depth + 1) rest
  | 0, ')' :: _ => .strayParenthesis
  | depth + 1, ')' :: rest => outsideQuotes depth rest
  | depth, _ :: rest => outsideQuotes depth rest

def insideQuotes : (depth : Nat) → List Char → Enclosure
  | _, [] => .openQuote
  | depth, '"' :: rest => outsideQuotes depth rest
  | _, ['\\'] => .openQuote
  | depth, '\\' :: _ :: rest => insideQuotes depth rest
  | depth, _ :: rest => insideQuotes depth rest

end

def of (text : List Char) : Enclosure :=
  outsideQuotes 0 text

/-! ## The same from the end of a scan -/

def ofPosition : Option Nesting → Enclosure
  | none => .strayParenthesis
  | some position =>
      if position.quoting ≠ .plain then .openQuote
      else if position.depth ≠ 0 then .openParenthesis
      else .complete

private theorem eq_ofPosition (text : List Char) : ∀ depth,
    outsideQuotes depth text = ofPosition (Nesting.scan? ⟨depth, .plain⟩ text) ∧
      insideQuotes depth text = ofPosition (Nesting.scan? ⟨depth, .quoted⟩ text) ∧
      insideQuotes depth ('\\' :: text) =
        ofPosition (Nesting.scan? ⟨depth, .escaped⟩ text) := by
  induction text with
  | nil =>
      intro depth
      cases depth <;> simp [outsideQuotes, insideQuotes, ofPosition]
  | cons character rest induction =>
      intro depth
      refine ⟨?_, ?_, ?_⟩
      · by_cases isQuote : character = '"'
        · subst isQuote
          simp [outsideQuotes, Nesting.step?, Quoting.step, induction]
        by_cases isOpen : character = '('
        · subst isOpen
          simp [outsideQuotes, Nesting.step?, induction]
        by_cases isClose : character = ')'
        · subst isClose
          cases depth with
          | zero => simp [outsideQuotes, Nesting.step?, ofPosition]
          | succ depth => simp [outsideQuotes, Nesting.step?, induction]
        · simp [outsideQuotes, Nesting.step?, Quoting.step, isQuote, isOpen, isClose,
            induction]
      · by_cases isQuote : character = '"'
        · subst isQuote
          simp [insideQuotes, Nesting.step?, Quoting.step, induction]
        by_cases isBackslash : character = '\\'
        · subst isBackslash
          rw [(induction depth).2.2]
          simp [Nesting.step?, Quoting.step]
        · simp [insideQuotes, Nesting.step?, Quoting.step, isQuote, isBackslash,
            induction]
      · simp [insideQuotes, Nesting.step?, Quoting.step, induction]

theorem of_eq_ofPosition (text : List Char) :
    of text = ofPosition (Nesting.outside.scan? text) :=
  (eq_ofPosition text 0).1

theorem of_eq_complete_iff {text : List Char} :
    of text = .complete ↔ Nesting.Balanced text := by
  rw [of_eq_ofPosition, Nesting.Balanced]
  cases Nesting.outside.scan? text with
  | none => simp [ofPosition]
  | some position =>
      rcases position with ⟨depth, quoting⟩
      by_cases plain : quoting = .plain <;> by_cases flat : depth = 0 <;>
        simp [ofPosition, plain, flat, Nesting.outside]

/-! ## Faults -/

def fault? : Enclosure → Option Term.Fault
  | .complete => none
  | .strayParenthesis => some .unbalancedParentheses
  | .openParenthesis => some .unbalancedParentheses
  | .openQuote => some .unterminatedQuote

end Enclosure

namespace Term

theorem Splitter.nesting_finish (splitter : Splitter) :
    splitter.finish.nesting = splitter.nesting := by
  unfold finish
  cases splitter.draft <;> rfl

/-- Whatever terms there are, a splitter reads quotes and parentheses as a scan does. -/
theorem Splitter.map_nesting_step? (splitter : Splitter) (character : Char) :
    (splitter.step? character).map Splitter.nesting =
      splitter.nesting.step? character := by
  unfold step?
  cases splitter.nesting.step? character with
  | none => rfl
  | some next =>
      simp only [Option.map_some]
      split
      · rw [nesting_finish]
      · rfl

theorem Splitter.map_nesting_foldlM (splitter : Splitter) (text : List Char) :
    (text.foldlM step? splitter).map Splitter.nesting = splitter.nesting.scan? text := by
  induction text generalizing splitter with
  | nil => rfl
  | cons character rest induction =>
      rw [List.foldlM_cons, Nesting.scan?_cons, ← splitter.map_nesting_step? character]
      cases splitter.step? character with
      | none => rfl
      | some next => exact induction next

theorem Splitter.outcome_eq_error_iff {splitter : Splitter} {text : List Char}
    {fault : Fault} :
    splitter.outcome text = .error fault ↔
      (Enclosure.ofPosition (splitter.nesting.scan? text)).fault? = some fault := by
  induction text generalizing splitter with
  | nil =>
      by_cases plain : splitter.nesting.quoting = .plain <;>
        by_cases flat : splitter.nesting.depth = 0 <;>
        simp [outcome, terms?, Enclosure.ofPosition, Enclosure.fault?, plain, flat]
  | cons character rest induction =>
      rw [Nesting.scan?_cons, ← splitter.map_nesting_step? character, outcome]
      cases splitter.step? character with
      | none => simp [Enclosure.ofPosition, Enclosure.fault?]
      | some next => exact induction

theorem split_eq_error_iff {start : Nat} {text : List Char} {fault : Fault} :
    split start text = .error fault ↔ (Enclosure.of text).fault? = some fault := by
  rw [split_eq_outcome, Splitter.outcome_eq_error_iff, Enclosure.of_eq_ofPosition]
  rfl

theorem exists_tiled_of_balanced {text : List Char} (balanced : Nesting.Balanced text)
    (start : Nat) : ∃ terms, Tiled start text terms := by
  cases splits : split start text with
  | error fault =>
      rw [split_eq_error_iff, Enclosure.of_eq_complete_iff.mpr balanced] at splits
      cases splits
  | ok terms => exact ⟨terms, split_eq_ok_iff.mp splits⟩

end Term

end Criteria
