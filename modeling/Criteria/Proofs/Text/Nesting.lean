import Criteria.Text.Blank
import Criteria.Text.Nesting

/-!
Balanced texts, alone and between parentheses.

What a text does to quotes and parentheses does not depend on the parentheses around it,
until one of them is closed.
-/

namespace Criteria.Nesting

def deeper (nesting : Nesting) : Nesting :=
  { nesting with depth := nesting.depth + 1 }

theorem deeper_ne_outside (nesting : Nesting) : nesting.deeper ≠ outside := by
  intro equal
  have depths := congrArg Nesting.depth equal
  simp [deeper, outside] at depths

theorem step?_outside_open : outside.step? '(' = some outside.deeper := rfl

theorem step?_deeper_close : outside.deeper.step? ')' = some outside := rfl

theorem step?_of_blank {nesting : Nesting} {character : Char}
    (blank : isBlank character = true) :
    nesting.step? character =
      some { nesting with quoting := nesting.quoting.step character } := by
  have notOpen : character ≠ '(' := by rintro rfl; simp [isBlank] at blank
  have notClose : character ≠ ')' := by rintro rfl; simp [isBlank] at blank
  simp [step?, notOpen, notClose]

theorem step?_eq_outside_iff_of_blank {nesting : Nesting} {character : Char}
    (blank : isBlank character = true) :
    nesting.step? character = some outside ↔ nesting = outside := by
  have notQuote : character ≠ '"' := by rintro rfl; simp [isBlank] at blank
  rcases nesting with ⟨depth, quoting⟩
  rw [step?_of_blank blank]
  cases quoting with
  | plain => simp [outside, Quoting.step, notQuote]
  | quoted =>
      by_cases escapes : character = '\\' <;>
        simp [outside, Quoting.step, notQuote, escapes]
  | escaped => simp [outside, Quoting.step]

theorem step?_eq_none_iff {nesting : Nesting} {character : Char} :
    nesting.step? character = none ↔ nesting = outside ∧ character = ')' := by
  rcases nesting with ⟨depth, quoting⟩
  unfold step?
  split
  · simp
  · rename_i plain
    simp only at plain
    subst plain
    by_cases top : depth = 0 <;> simp [top, outside]
  · rename_i notOpen notClose
    simp only [reduceCtorEq, false_iff, not_and]
    intro isOutside isClose
    exact notClose (congrArg Nesting.quoting isOutside) isClose

/-- What a character does to a position: outside quotes a parenthesis changes the depth,
and any other character is a matter of quotes. -/
inductive Steps : Nesting → Char → Nesting → Prop
  | opens (depth : Nat) : Steps ⟨depth, .plain⟩ '(' ⟨depth + 1, .plain⟩
  | closes (depth : Nat) : Steps ⟨depth + 1, .plain⟩ ')' ⟨depth, .plain⟩
  | plain (depth : Nat) {character : Char} (noOpen : character ≠ '(')
      (noClose : character ≠ ')') :
      Steps ⟨depth, .plain⟩ character ⟨depth, Quoting.plain.step character⟩
  | quoted (depth : Nat) (character : Char) :
      Steps ⟨depth, .quoted⟩ character ⟨depth, Quoting.quoted.step character⟩
  | escaped (depth : Nat) (character : Char) :
      Steps ⟨depth, .escaped⟩ character ⟨depth, Quoting.escaped.step character⟩

theorem steps_of_step? {nesting next : Nesting} {character : Char}
    (stepped : nesting.step? character = some next) : Steps nesting character next := by
  rcases nesting with ⟨depth, quoting⟩
  cases quoting with
  | plain =>
      by_cases isOpen : character = '('
      · subst isOpen
        cases stepped
        exact .opens depth
      by_cases isClose : character = ')'
      · subst isClose
        cases depth with
        | zero => cases stepped
        | succ depth =>
            cases stepped
            exact .closes depth
      have stays : next = ⟨depth, Quoting.plain.step character⟩ := by
        simpa [step?, isOpen, isClose] using stepped.symm
      rw [stays]
      exact .plain depth isOpen isClose
  | quoted =>
      cases stepped
      exact .quoted depth character
  | escaped =>
      cases stepped
      exact .escaped depth character

theorem step?_deeper {nesting next : Nesting} {character : Char}
    (stepped : nesting.step? character = some next) :
    nesting.deeper.step? character = some next.deeper := by
  cases steps_of_step? stepped with
  | plain depth noOpen noClose => simp [step?, deeper, noOpen, noClose]
  | _ => rfl

theorem scan?_deeper {nesting last : Nesting} {text : List Char}
    (scanned : nesting.scan? text = some last) :
    nesting.deeper.scan? text = some last.deeper := by
  induction text generalizing nesting with
  | nil =>
      cases scanned
      rfl
  | cons character rest induction =>
      rw [scan?_cons, Option.bind_eq_some_iff] at scanned
      rcases scanned with ⟨next, stepped, scanned⟩
      rw [scan?_cons, step?_deeper stepped]
      exact induction scanned

def lower (level : Nat) (nesting : Nesting) : Nesting :=
  { nesting with depth := nesting.depth + level }

theorem scan?_lower {nesting last : Nesting} {text : List Char}
    (scanned : nesting.scan? text = some last) (level : Nat) :
    (nesting.lower level).scan? text = some (last.lower level) := by
  induction level with
  | zero => exact scanned
  | succ level induction => exact scan?_deeper induction

theorem scan?_append_singleton {nesting last next : Nesting} {text : List Char}
    {character : Char} (scanned : nesting.scan? text = some last)
    (stepped : last.step? character = some next) :
    nesting.scan? (text ++ [character]) = some next := by
  rw [scan?_append, scanned]
  simp [stepped]

/-! ## Balanced texts -/

theorem balanced_nil : Balanced [] := rfl

theorem Balanced.append {left right : List Char} (leftBalanced : Balanced left)
    (rightBalanced : Balanced right) : Balanced (left ++ right) := by
  unfold Balanced at *
  rw [scan?_append, leftBalanced]
  exact rightBalanced

theorem balanced_singleton_of_blank {character : Char}
    (blank : isBlank character = true) :
    Balanced [character] := by
  rw [Balanced, scan?_cons, (step?_eq_outside_iff_of_blank blank).mpr rfl]
  rfl

def parenthesize (text : List Char) : List Char :=
  '(' :: text ++ [')']

theorem Balanced.parenthesize {text : List Char} (balanced : Balanced text) :
    Balanced (parenthesize text) := by
  unfold Balanced Nesting.parenthesize
  rw [List.cons_append, scan?_cons, step?_outside_open, Option.bind_some, scan?_append,
    scan?_deeper balanced]
  rfl

end Criteria.Nesting
