import Criteria.Proofs.Expr.Part
import Criteria.Proofs.Term.Word

/-!
Texts that are a single condition, for all their terms are words.
-/

namespace Criteria

open Term (Tiled IsWord)

/-- Words with gaps between them. None of the words is a keyword. -/
inductive Run : List Char → Prop
  | word {word : List Char} (isWord : IsWord word)
      (noKeyword : Term.keyword? word = none) : Run word
  | gap {word gap rest : List Char} (isWord : IsWord word)
      (noKeyword : Term.keyword? word = none)
      (blank : Text.allBlank gap = true) (apart : gap ≠ []) (run : Run rest) :
      Run (word ++ gap ++ rest)

theorem Run.exists_tiled {text : List Char} (run : Run text) (start : Nat) :
    ∃ first others, Tiled start text (first :: others) ∧ first.start = start ∧
      (others.getLastD first).stop = start + Text.byteSize text ∧
      ∀ term ∈ first :: others, term.kind = .word := by
  induction run generalizing start with
  | @word word isWord noKeyword =>
      have tiled : Tiled start (word ++ []) [⟨Term.wordKind word, start, word⟩] :=
        .word isWord (by simp) .nil
      rw [List.append_nil] at tiled
      exact ⟨_, [], tiled, rfl, rfl, by simp [Term.wordKind, noKeyword]⟩
  | @gap word gap rest isWord noKeyword blank apart _ induction =>
      rcases induction (start + Text.byteSize word + Text.byteSize gap) with
        ⟨first, others, tiled, _, ended, areWords⟩
      have whole : Tiled start (word ++ (gap ++ rest))
          (⟨Term.wordKind word, start, word⟩ :: first :: others) := by
        apply Tiled.word isWord _ (tiled.blanks blank)
        intro next isHead
        exact .inl (Term.isBlank_of_head_gap blank apart next isHead)
      rw [← List.append_assoc] at whole
      refine ⟨_, first :: others, whole, rfl, ?_, ?_⟩
      · rw [List.getLastD_cons, ended, Text.byteSize_append, Text.byteSize_append]
        omega
      · rw [List.forall_mem_cons]
        exact ⟨by simp [Term.wordKind, noKeyword], areWords⟩

theorem Term.Tiled.read_eq {text : List Char} {first : Term} {others : List Term}
    (tiled : Tiled 0 text (first :: others)) (isWord : first.kind = .word)
    (joined : ∀ term ∈ others, ∀ connective, term.kind ≠ .connective connective)
    (starts : first.start = 0)
    (ended : (others.getLastD first).stop = Text.byteSize text) :
    Expr.read text = .ok (.leaf ⟨0, Text.byteSize text⟩) := by
  have reads := Level.Reads.single (.run isWord joined)
  rw [starts, ended] at reads
  exact Expr.read_eq_ok_iff.mpr ⟨_, tiled, reads⟩

theorem Run.read_eq {text : List Char} (run : Run text) :
    Expr.read text = .ok (.leaf ⟨0, Text.byteSize text⟩) := by
  rcases run.exists_tiled 0 with ⟨first, others, tiled, starts, ended, areWords⟩
  rw [List.forall_mem_cons] at areWords
  rw [Nat.zero_add] at ended
  refine tiled.read_eq areWords.1 ?_ starts ended
  intro term member connective
  simp [areWords.2 term member]

end Criteria
