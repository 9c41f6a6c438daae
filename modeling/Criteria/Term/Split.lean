import Criteria.Term.Basic
import Criteria.Text.Blank
import Criteria.Text.Nesting

/-!
Splitting an expression into terms.

Outside quotes and parentheses, blanks separate terms. A parenthesis at the start of a
term opens a group, and the group ends where that parenthesis is closed. A parenthesis
inside a term belongs to it, as in `LEN(name)`, unless what stands before it is a
keyword: `NOT(a = 1)` is two terms.
-/

namespace Criteria.Term

inductive Fault where
  | unterminatedQuote
  | unbalancedParentheses
  deriving DecidableEq, Repr

structure Draft where
  isGroup : Bool
  start : Nat
  characters : List Char

namespace Draft

def text (draft : Draft) : List Char :=
  draft.characters.reverse

def finish (draft : Draft) : Term :=
  ⟨if draft.isGroup then .group else wordKind draft.text, draft.start, draft.text⟩

end Draft

structure Splitter where
  terms : List Term
  draft : Option Draft
  nesting : Nesting
  offset : Nat

namespace Splitter

def new (start : Nat) : Splitter :=
  ⟨[], none, .outside, start⟩

def finish (splitter : Splitter) : Splitter :=
  match splitter.draft with
  | none => splitter
  | some draft => { splitter with terms := draft.finish :: splitter.terms, draft := none }

def extend (splitter : Splitter) (character : Char) : Splitter :=
  match splitter.draft with
  | none =>
      { splitter with draft := some ⟨character == '(', splitter.offset, [character]⟩ }
  | some draft =>
      { splitter with
        draft := some { draft with characters := character :: draft.characters } }

def atKeyword (splitter : Splitter) : Bool :=
  splitter.draft.any fun draft => (keyword? draft.text).isSome

def inGroup (splitter : Splitter) : Bool :=
  splitter.draft.any (·.isGroup)

def place (splitter : Splitter) (character : Char) : Splitter :=
  if splitter.nesting = .outside then
    if isBlank character then splitter.finish
    else if character = '(' ∧ splitter.atKeyword then splitter.finish.extend character
    else splitter.extend character
  else splitter.extend character

/-- Reads one more character; none at a parenthesis that closes nothing. -/
def step? (splitter : Splitter) (character : Char) : Option Splitter :=
  (splitter.nesting.step? character).map fun nesting =>
    let placed := splitter.place character
    let next := { placed with nesting, offset := splitter.offset + character.utf8Size }
    if nesting = .outside ∧ next.inGroup then next.finish else next

def terms? (splitter : Splitter) : Except Fault (List Term) :=
  if splitter.nesting.quoting ≠ .plain then .error .unterminatedQuote
  else if splitter.nesting.depth ≠ 0 then .error .unbalancedParentheses
  else .ok splitter.finish.terms.reverse

end Splitter

def split (start : Nat) (text : List Char) : Except Fault (List Term) :=
  match text.foldlM Splitter.step? (Splitter.new start) with
  | none => .error .unbalancedParentheses
  | some splitter => splitter.terms?

/-! ## Terms are parts of the text -/

namespace Splitter

private def Within (length : Nat) (splitter : Splitter) : Prop :=
  (∀ term ∈ splitter.terms, term.text ≠ [] ∧ term.text.length ≤ length) ∧
    ∀ draft ∈ splitter.draft, draft.characters ≠ [] ∧ draft.characters.length ≤ length

private theorem Within.finish {length : Nat} {splitter : Splitter}
    (within : Within length splitter) : Within length splitter.finish := by
  rcases splitter with ⟨terms, draft, nesting, offset⟩
  cases draft with
  | none => exact within
  | some draft =>
      refine ⟨fun term member => ?_, by simp [Splitter.finish]⟩
      rcases List.mem_cons.mp member with rfl | member
      · simpa [Draft.finish, Draft.text] using within.2 draft rfl
      · exact within.1 term member

private theorem Within.extend {length : Nat} {splitter : Splitter} (character : Char)
    (within : Within length splitter) :
    Within (length + 1) (splitter.extend character) := by
  rcases splitter with ⟨terms, draft, nesting, offset⟩
  refine ⟨fun term member => ?_, fun draft' member => ?_⟩
  · have old : term ∈ terms := by cases draft <;> exact member
    exact ⟨(within.1 term old).1, Nat.le_succ_of_le (within.1 term old).2⟩
  · cases draft with
    | none =>
        rcases Option.some.inj member with rfl
        simp
    | some draft =>
        rcases Option.some.inj member with rfl
        have bound := (within.2 draft rfl).2
        simpa using bound

private theorem Within.mono {length : Nat} {splitter : Splitter}
    (within : Within length splitter) : Within (length + 1) splitter :=
  ⟨fun term member =>
    ⟨(within.1 term member).1, Nat.le_succ_of_le (within.1 term member).2⟩,
    fun draft member =>
    ⟨(within.2 draft member).1, Nat.le_succ_of_le (within.2 draft member).2⟩⟩

private theorem Within.step {length : Nat} {splitter next : Splitter} {character : Char}
    (within : Within length splitter) (stepped : splitter.step? character = some next) :
    Within (length + 1) next := by
  rcases Option.map_eq_some_iff.mp stepped with ⟨nesting, _, rfl⟩
  have placed : Within (length + 1) (splitter.place character) := by
    unfold place
    split
    · split
      · exact within.finish.mono
      · split
        · exact within.finish.extend character
        · exact within.extend character
    · exact within.extend character
  simp only
  split
  · exact Within.finish placed
  · exact placed

private theorem Within.run {text : List Char} {length : Nat} {splitter last : Splitter}
    (within : Within length splitter) (ran : text.foldlM step? splitter = some last) :
    Within (length + text.length) last := by
  induction text generalizing length splitter with
  | nil =>
      rcases Option.some.inj ran with rfl
      exact within
  | cons character rest induction =>
      simp only [List.foldlM_cons, Option.bind_eq_bind, Option.bind_eq_some_iff] at ran
      rcases ran with ⟨next, stepped, ran⟩
      have result := induction (within.step stepped) ran
      simpa [Nat.add_comm, Nat.add_left_comm, Nat.add_assoc] using result

end Splitter

theorem length_of_mem_split {start : Nat} {text : List Char} {terms : List Term}
    {term : Term} (splits : split start text = .ok terms) (member : term ∈ terms) :
    term.text ≠ [] ∧ term.text.length ≤ text.length := by
  unfold split at splits
  split at splits
  · cases splits
  · rename_i splitter ran
    have within : Splitter.Within (0 + text.length) splitter :=
      Splitter.Within.run ⟨by simp [Splitter.new], by simp [Splitter.new]⟩ ran
    unfold Splitter.terms? at splits
    split at splits
    · cases splits
    · split at splits
      · cases splits
      · rcases Except.ok.inj splits with rfl
        simpa using within.finish.1 term (List.mem_reverse.mp member)

theorem inner_length_lt {start : Nat} {text : List Char} {terms : List Term} {term : Term}
    (splits : split start text = .ok terms) (member : term ∈ terms) :
    term.inner.length < text.length := by
  rcases length_of_mem_split splits member with ⟨nonempty, bound⟩
  have positive := List.length_pos_iff.mpr nonempty
  simp only [inner, List.length_dropLast, List.length_tail]
  omega

end Criteria.Term
