import Criteria.Error
import Criteria.Proofs.Text.Span

/-!
Steps at byte offsets, and the traps in them.

Where the parts of a text are kept as offsets into it, a part is a slice that may not
exist, and the length of a part is a difference that may be negative. A step that asks
for what does not exist ends in a trap, and then there is no outcome, not even an error.
-/

namespace Criteria

/-- What goes wrong in a step that cannot be taken. -/
inductive Trap where
  | slice
  | negative
  | entry
  | endless
  deriving DecidableEq, Repr

/-- What ends a reading or an evaluation early: a trap, or an error of the expression. -/
inductive Interrupt where
  | trap (trap : Trap)
  | error (error : EvaluationError)
  deriving DecidableEq, Repr

namespace Offset

abbrev Checked : Type → Type :=
  Except Interrupt

variable {Result Result' : Type}

def sound (outcome : Except EvaluationError Result) : Checked Result :=
  outcome.mapError .error

@[simp] theorem sound_ok (result : Result) : sound (.ok result) = .ok result := rfl

@[simp] theorem sound_error (error : EvaluationError) :
    (sound (.error error) : Checked Result) = .error (.error error) := rfl

theorem sound_ne_trap (outcome : Except EvaluationError Result) (trap : Trap) :
    sound outcome ≠ .error (.trap trap) := by
  cases outcome <;> simp

@[simp] theorem ok_bind (result : Result) (next : Result → Checked Result') :
    ((.ok result : Checked Result) >>= next) = next result := rfl

theorem bind_eq_ok_iff {first : Checked Result} {next : Result → Checked Result'}
    {result : Result'} :
    first >>= next = .ok result ↔
      ∃ middle, first = .ok middle ∧ next middle = .ok result := by
  cases first with
  | error interrupt =>
      constructor
      · intro passes
        cases passes
      · rintro ⟨_, isOk, _⟩
        cases isOk
  | ok middle => simp

/-! ## Slices -/

def slice (text : List Char) (span : Span) : Checked (List Char) :=
  match span.slice? text with
  | some part => .ok part
  | none => .error (.trap .slice)

def sliceFrom (text : List Char) (start : Nat) : Checked (List Char) :=
  slice text ⟨start, Text.byteSize text⟩

theorem slice_eq {text part : List Char} {span : Span} (covers : span.Covers text part) :
    slice text span = .ok part := by
  rw [slice, covers.slice?_eq]

theorem slice_eq_trap_iff {text : List Char} {span : Span} :
    slice text span = .error (.trap .slice) ↔ ∀ part, ¬ span.Covers text part := by
  rw [slice]
  cases found : span.slice? text with
  | some part =>
      simp only [reduceCtorEq, false_iff]
      exact fun nowhere => nowhere part (Span.slice?_eq_some_iff.mp found)
  | none =>
      simp only [true_iff]
      intro part covers
      rw [covers.slice?_eq] at found
      cases found

theorem sliceFrom_append (before after : List Char) :
    sliceFrom (before ++ after) (Text.byteSize before) = .ok after :=
  slice_eq ⟨before, [], by simp, rfl, Text.byteSize_append before after⟩

/-! ## Numbers and entries -/

def minus (left right : Nat) : Checked Nat :=
  if right ≤ left then .ok (left - right) else .error (.trap .negative)

theorem minus_eq {left right : Nat} (atMost : right ≤ left) :
    minus left right = .ok (left - right) :=
  if_pos atMost

theorem minus_eq_trap_iff {left right : Nat} :
    minus left right = .error (.trap .negative) ↔ left < right := by
  rw [minus, ← Nat.not_le]
  split <;> simp_all

theorem minus_add (number more : Nat) : minus (number + more) more = .ok number := by
  rw [minus_eq (Nat.le_add_left ..), Nat.add_sub_cancel]

def entry {Item : Type} (items : List Item) (index : Nat) : Checked Item :=
  match items[index]? with
  | some item => .ok item
  | none => .error (.trap .entry)

/-! ## Searching -/

def find? (isSought : Char → Bool) : List Char → Option Nat
  | [] => none
  | character :: rest =>
      if isSought character then some 0
      else (find? isSought rest).map (character.utf8Size + ·)

def find (isSought : Char → Bool) (text : List Char) : Nat :=
  (find? isSought text).getD (Text.byteSize text)

def findFrom (isSought : Char → Bool) (text : List Char) (start : Nat) : Checked Nat := do
  let rest ← sliceFrom text start
  return match find? isSought rest with
    | some offset => start + offset
    | none => Text.byteSize text

section Search

variable {isSought : Char → Bool} {before passed after : List Char}

theorem find?_append (notSought : ∀ character ∈ passed, isSought character = false)
    (found : ∀ character ∈ after.head?, isSought character = true) :
    find? isSought (passed ++ after) = if after = [] then none
      else some (Text.byteSize passed) := by
  induction passed with
  | nil =>
      cases after with
      | nil => rfl
      | cons first others => exact if_pos (found first rfl)
  | cons character passed induction =>
      rw [List.forall_mem_cons] at notSought
      rw [List.cons_append, find?, if_neg (by simp [notSought.1]), induction notSought.2]
      split <;> rfl

theorem find_append (notSought : ∀ character ∈ passed, isSought character = false)
    (found : ∀ character ∈ after.head?, isSought character = true) :
    find isSought (passed ++ after) = Text.byteSize passed := by
  rw [find, find?_append notSought found]
  split
  · rename_i isEnd
    rw [isEnd, List.append_nil]
    rfl
  · rfl

theorem findFrom_append (notSought : ∀ character ∈ passed, isSought character = false)
    (found : ∀ character ∈ after.head?, isSought character = true) :
    findFrom isSought (before ++ (passed ++ after)) (Text.byteSize before) =
      .ok (Text.byteSize before + Text.byteSize passed) := by
  rw [findFrom, sliceFrom_append]
  change Except.ok (match find? isSought (passed ++ after) with
    | some offset => Text.byteSize before + offset
    | none => Text.byteSize (before ++ (passed ++ after))) = _
  rw [find?_append notSought found]
  by_cases isEnd : after = []
  · rw [if_pos isEnd, isEnd, List.append_nil, Text.byteSize_append]
  · rw [if_neg isEnd]

end Search

end Offset

end Criteria
