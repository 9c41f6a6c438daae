import Criteria.Proofs.Text.Nesting
import Criteria.Text.Quoted

/-!
Quoted texts among other texts.

A reader that comes to a quoted text from outside quotes leaves it where it entered, and
everywhere between it is inside quotes, whatever the text is.
-/

namespace Criteria

namespace Quoting

def after (quoting : Quoting) (text : List Char) : Quoting :=
  text.foldl step quoting

@[simp] theorem after_nil (quoting : Quoting) : quoting.after [] = quoting := rfl

@[simp] theorem after_cons (quoting : Quoting) (character : Char) (text : List Char) :
    quoting.after (character :: text) = (quoting.step character).after text := rfl

@[simp] theorem after_append (quoting : Quoting) (left right : List Char) :
    quoting.after (left ++ right) = (quoting.after left).after right :=
  List.foldl_append

theorem step_of_plain {character : Char} (notQuote : character ≠ '"') :
    plain.step character = .plain :=
  if_neg notQuote

theorem step_of_quoted {character : Char} (notQuote : character ≠ '"')
    (notBackslash : character ≠ '\\') : quoted.step character = .quoted := by
  rw [step, if_neg notBackslash, if_neg notQuote]

theorem eq_quote_of_step {quoting : Quoting} {character : Char}
    (isOpen : quoting ≠ .plain) (stepped : quoting.step character = .plain) :
    character = '"' := by
  cases quoting with
  | plain => exact absurd rfl isOpen
  | escaped => cases stepped
  | quoted =>
      by_cases isQuote : character = '"'
      · exact isQuote
      by_cases backslash : character = '\\'
      · rw [step, if_pos backslash] at stepped
        cases stepped
      · rw [step_of_quoted isQuote backslash] at stepped
        cases stepped

theorem after_escape (text : List Char) : quoted.after (Text.escape text) = .quoted := by
  induction text with
  | nil => rfl
  | cons character rest induction =>
      by_cases special : character = '"' ∨ character = '\\'
      · rw [Text.escape, if_pos special]
        exact induction
      · rw [Text.escape, if_neg special, after_cons]
        rw [not_or] at special
        rw [step_of_quoted special.1 special.2]
        exact induction

theorem after_ne_plain_of_escape {text before after : List Char} {next : Char}
    (equal : Text.escape text ++ ['"'] = before ++ next :: after) :
    quoted.after before ≠ .plain := by
  induction text generalizing before with
  | nil =>
      cases before with
      | nil => simp
      | cons head others => simp [Text.escape] at equal
  | cons character rest induction =>
      by_cases special : character = '"' ∨ character = '\\'
      · rw [Text.escape, if_pos special] at equal
        rcases before with _ | ⟨head, _ | ⟨escaped, others⟩⟩
        · simp
        · cases equal
          simp [step]
        · simp only [List.cons_append, List.cons.injEq] at equal
          rcases equal with ⟨rfl, rfl, equal⟩
          change quoted.after others ≠ .plain
          exact induction equal
      · rw [Text.escape, if_neg special] at equal
        rw [not_or] at special
        cases before with
        | nil => simp
        | cons head others =>
            rw [List.cons_append, List.cons_append, List.cons.injEq] at equal
            rcases equal with ⟨rfl, equal⟩
            rw [after_cons, step_of_quoted special.1 special.2]
            exact induction equal

theorem after_ne_plain_of_quote {text before after : List Char} {next : Char}
    (equal : Text.quote text = before ++ next :: after) (started : before ≠ []) :
    plain.after before ≠ .plain := by
  cases before with
  | nil => exact absurd rfl started
  | cons head others =>
      rw [Text.quote, List.cons_append, List.cons_append, List.cons.injEq] at equal
      rcases equal with ⟨rfl, equal⟩
      exact after_ne_plain_of_escape equal

theorem outside_quote {left text right before after : List Char}
    (outside : plain.after left = .plain)
    (equal : left ++ Text.quote text ++ right = before ++ after)
    (cut : plain.after before = .plain) :
    (∃ between, left = before ++ between ∧ after = between ++ Text.quote text ++ right) ∨
      ∃ between, before = left ++ Text.quote text ++ between ∧
        right = between ++ after := by
  rw [List.append_assoc] at equal
  rcases List.append_eq_append_iff.mp equal with
    ⟨between, rfl, restEq⟩ | ⟨between, rfl, rfl⟩
  · rcases List.append_eq_append_iff.mp restEq with
      ⟨rest, rfl, rfl⟩ | ⟨rest, quoteEq, rfl⟩
    · exact .inr ⟨rest, (List.append_assoc ..).symm, rfl⟩
    · rw [after_append, outside] at cut
      cases rest with
      | nil =>
          rw [List.append_nil] at quoteEq
          exact .inr ⟨[], by simp [quoteEq], rfl⟩
      | cons next others =>
          cases between with
          | nil => exact .inl ⟨[], by simp, by simp [quoteEq]⟩
          | cons first inside =>
              exact absurd cut (after_ne_plain_of_quote quoteEq (List.cons_ne_nil _ _))
  · exact .inl ⟨between, rfl, (List.append_assoc ..).symm⟩

end Quoting

namespace Nesting

theorem quoting_of_step? {nesting next : Nesting} {character : Char}
    (stepped : nesting.step? character = some next) :
    next.quoting = nesting.quoting.step character := by
  rcases nesting with ⟨depth, quoting⟩
  unfold step? at stepped
  split at stepped
  · rename_i plain
    simp only at plain
    subst plain
    cases stepped
    rfl
  · rename_i plain
    simp only at plain
    subst plain
    split at stepped
    · cases stepped
    · cases stepped
      rfl
  · cases stepped
    rfl

theorem quoting_of_scan? {nesting last : Nesting} {text : List Char}
    (scanned : nesting.scan? text = some last) :
    last.quoting = nesting.quoting.after text := by
  induction text generalizing nesting with
  | nil =>
      cases scanned
      rfl
  | cons character rest induction =>
      rw [scan?_cons, Option.bind_eq_some_iff] at scanned
      rcases scanned with ⟨next, stepped, scanned⟩
      rw [induction scanned, quoting_of_step? stepped, Quoting.after_cons]

theorem Balanced.after_eq_plain {text : List Char} (balanced : Balanced text) :
    Quoting.plain.after text = .plain :=
  (quoting_of_scan? balanced).symm

theorem step?_of_not_plain {nesting : Nesting} (notPlain : nesting.quoting ≠ .plain)
    (character : Char) : nesting.step? character =
      some { nesting with quoting := nesting.quoting.step character } := by
  rcases nesting with ⟨depth, quoting⟩
  cases quoting with
  | plain => exact absurd rfl notPlain
  | quoted => rfl
  | escaped => rfl

theorem scan?_of_open {nesting : Nesting} {text : List Char}
    (stays : ∀ before next after, text = before ++ next :: after →
      nesting.quoting.after before ≠ .plain) :
    nesting.scan? text = some { nesting with quoting := nesting.quoting.after text } := by
  induction text generalizing nesting with
  | nil => rfl
  | cons character rest induction =>
      rw [scan?_cons, step?_of_not_plain (stays [] character rest rfl), Option.bind_some]
      apply induction
      intro before next after equal
      exact stays (character :: before) next after (congrArg (character :: ·) equal)

theorem scan?_quote {nesting : Nesting} (plain : nesting.quoting = .plain)
    (text : List Char) :
    nesting.scan? (Text.quote text) = some nesting := by
  rcases nesting with ⟨depth, quoting⟩
  simp only at plain
  subst plain
  have opened : (⟨depth, .plain⟩ : Nesting).step? '"' = some ⟨depth, .quoted⟩ := rfl
  rw [Text.quote, List.cons_append, scan?_cons, opened, Option.bind_some,
    scan?_of_open fun _ _ _ equal => Quoting.after_ne_plain_of_escape equal,
    Quoting.after_append, Quoting.after_escape]
  rfl

theorem balanced_quote (text : List Char) : Balanced (Text.quote text) :=
  scan?_quote rfl text

end Nesting

end Criteria
