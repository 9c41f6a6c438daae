import Criteria.Proofs.Text.Quoted
import Criteria.Proofs.Text.Span

/-!
Texts up to the quote or the parenthesis that closes them.

What is found there stays the same whatever follows. A quoted part is the shortest
beginning of a text that can be unquoted, and it is there whenever the whole text is
closed. So is the text up to the parenthesis that closes one before it.
-/

namespace Criteria

/-! ## Quoted parts -/

theorem Quoting.closing?_exchange {quoting : Quoting} {text run after : List Char}
    (closed : quoting.closing? text = some (run, after)) (after' : List Char) :
    quoting.closing? (run ++ after') = some (run, after') := by
  induction text generalizing quoting run with
  | nil => cases closed
  | cons character rest induction =>
      rw [closing?] at closed
      split at closed
      · rename_i stops
        cases closed
        simp only [List.singleton_append, closing?, stops]
      · rename_i goesOn
        rcases Option.map_eq_some_iff.mp closed with ⟨⟨run', _⟩, inner, equal⟩
        cases equal
        rw [List.cons_append, closing?]
        split
        · rename_i stops
          exact absurd stops goesOn
        · rw [induction inner]
          rfl

theorem Text.quotedPart?_eq {text part after : List Char}
    (found : quotedPart? text = some (part, after)) : text = part ++ after := by
  unfold quotedPart? at found
  split at found
  · rcases Option.map_eq_some_iff.mp found with ⟨⟨run, after'⟩, closed, equal⟩
    cases equal
    rw [List.cons_append, Quoting.closing?_append closed]
  · cases found

theorem Text.quotedPart?_exchange {text part after : List Char}
    (found : quotedPart? text = some (part, after)) (after' : List Char) :
    quotedPart? (part ++ after') = some (part, after') := by
  unfold quotedPart? at found
  split at found
  · rcases Option.map_eq_some_iff.mp found with ⟨⟨run, _⟩, closed, equal⟩
    cases equal
    rw [List.cons_append, quotedPart?, Quoting.closing?_exchange closed]
    rfl
  · cases found

theorem Text.head?_of_quotedPart? {text part after : List Char}
    (found : quotedPart? text = some (part, after)) : text.head? = some '"' := by
  unfold quotedPart? at found
  split at found
  · rfl
  · cases found

theorem Quoting.exists_closing? {quoting : Quoting} {text : List Char}
    (isOpen : quoting ≠ .plain) (closes : quoting.after text = .plain) :
    ∃ run after, quoting.closing? text = some (run, after) := by
  induction text generalizing quoting with
  | nil => exact absurd closes isOpen
  | cons character rest induction =>
      rw [after_cons] at closes
      rw [closing?]
      split
      · exact ⟨_, _, rfl⟩
      · rename_i goesOn
        rcases induction goesOn closes with ⟨run, after, closed⟩
        exact ⟨_, _, by rw [closed]; rfl⟩

theorem Nesting.Balanced.exists_quotedPart? {text : List Char}
    (balanced : Nesting.Balanced text) (isQuoted : text.head? = some '"') :
    ∃ part after, Text.quotedPart? text = some (part, after) := by
  rcases List.head?_eq_some_iff.mp isQuoted with ⟨rest, rfl⟩
  have closes : Quoting.quoted.after rest = .plain := balanced.after_eq_plain
  rcases Quoting.exists_closing? (by decide) closes with ⟨run, after, closed⟩
  exact ⟨_, _, by rw [Text.quotedPart?, closed]; rfl⟩

/-! ## Quoted parts can be unquoted -/

theorem Text.unescape?_of_closing? {quoting : Quoting} {text run after : List Char}
    (closed : quoting.closing? text = some (run, after)) :
    (quoting = .quoted → (unescape? run).isSome) ∧
      (quoting = .escaped → (unescape? ('\\' :: run)).isSome) := by
  induction text generalizing quoting run with
  | nil => cases closed
  | cons character rest induction =>
      rw [Quoting.closing?] at closed
      constructor
      · rintro rfl
        by_cases backslash : character = '\\'
        · subst backslash
          rcases Option.map_eq_some_iff.mp closed with ⟨⟨run', after'⟩, closed, equal⟩
          cases equal
          exact (induction closed).2 rfl
        · by_cases isQuote : character = '"'
          · subst isQuote
            cases closed
            rfl
          · rw [Quoting.step_of_quoted isQuote backslash] at closed
            rcases Option.map_eq_some_iff.mp closed with ⟨⟨run', after'⟩, closed, equal⟩
            cases equal
            have inner := (induction closed).1 rfl
            rw [unescape?] <;> simp_all
      · rintro rfl
        rcases Option.map_eq_some_iff.mp closed with ⟨⟨run', after'⟩, closed, equal⟩
        cases equal
        have inner := (induction closed).1 rfl
        rw [unescape?]
        split <;> simpa using inner

theorem Text.exists_unquote?_of_quotedPart? {text part after : List Char}
    (found : quotedPart? text = some (part, after)) :
    ∃ content, unquote? part = some content := by
  unfold quotedPart? at found
  split at found
  · rcases Option.map_eq_some_iff.mp found with ⟨⟨run, after'⟩, closed, equal⟩
    cases equal
    exact Option.isSome_iff_exists.mp ((unescape?_of_closing? closed).1 rfl)
  · cases found

theorem Text.closing?_of_unescape? {text content : List Char}
    (closed : unescape? text = some content) :
    Quoting.quoted.closing? text = some (text, []) := by
  fun_induction unescape? text generalizing content with
  | case1 | case3 | case4 => cases closed
  | case2 rest isLast =>
      rw [List.isEmpty_iff] at isLast
      subst isLast
      rfl
  | case5 character rest _ induction | case6 character rest _ induction =>
      rcases Option.map_eq_some_iff.mp closed with ⟨_, inner, _⟩
      have opened : Quoting.quoted.step '\\' = .escaped := rfl
      have passed : Quoting.escaped.step character = .quoted := rfl
      simp [Quoting.closing?, opened, passed, induction inner]
  | case7 character rest notQuote notLast notEscape induction =>
      have notBackslash : character ≠ '\\' := by
        intro isBackslash
        cases rest with
        | nil => exact notLast isBackslash rfl
        | cons next others => exact notEscape next others isBackslash rfl
      rcases Option.map_eq_some_iff.mp closed with ⟨_, inner, _⟩
      have stays : Quoting.quoted.step character = .quoted :=
        Quoting.step_of_quoted notQuote notBackslash
      simp [Quoting.closing?, stays, induction inner]

theorem Text.quotedPart?_eq_self_iff {text : List Char} :
    quotedPart? text = some (text, []) ↔ (unquote? text).isSome := by
  constructor
  · intro found
    exact Option.isSome_iff_exists.mpr (exists_unquote?_of_quotedPart? found)
  · intro unquoted
    rcases Option.isSome_iff_exists.mp unquoted with ⟨content, closed⟩
    unfold unquote? at closed
    split at closed
    · rw [quotedPart?, closing?_of_unescape? closed]
      rfl
    · cases closed

theorem Text.unquote?_append_eq_none {text content more : List Char}
    (closed : unquote? text = some content) (nonempty : more ≠ []) :
    unquote? (text ++ more) = none := by
  have isPart :=
    quotedPart?_eq_self_iff.mpr (Option.isSome_iff_exists.mpr ⟨content, closed⟩)
  have sooner := quotedPart?_exchange isPart more
  cases unquoted : unquote? (text ++ more) with
  | none => rfl
  | some other =>
      have all := quotedPart?_eq_self_iff.mpr
        (Option.isSome_iff_exists.mpr ⟨other, unquoted⟩)
      have same : text = text ++ more :=
        congrArg Prod.fst (Option.some.inj (sooner.symm.trans all))
      exact absurd (List.self_eq_append_right.mp same) nonempty

/-- The shortest beginning of a text that can be unquoted. -/
structure Text.IsFirstQuotation (part text : List Char) : Prop where
  begins : part <+: text
  unquoted : (unquote? part).isSome
  shortest : ∀ other, other <+: text → (unquote? other).isSome →
    byteSize part ≤ byteSize other

theorem Text.quotedPart?_eq_some_iff {text part after : List Char} :
    quotedPart? text = some (part, after) ↔
      text = part ++ after ∧ IsFirstQuotation part text := by
  constructor
  · intro found
    have equal := quotedPart?_eq found
    rcases exists_unquote?_of_quotedPart? found with ⟨content, unquoted⟩
    refine ⟨equal, ⟨after, equal.symm⟩,
      Option.isSome_iff_exists.mpr ⟨content, unquoted⟩, ?_⟩
    rintro other ⟨rest, isOther⟩ unquoted'
    rcases Nat.le_total (byteSize part) (byteSize other) with atMost | atMost
    · exact atMost
    · -- A longer text than the other one could not be unquoted.
      rcases exists_append_of_byteSize_le (isOther.trans equal) atMost with ⟨more, rfl, _⟩
      rcases Option.isSome_iff_exists.mp unquoted' with ⟨content', closed⟩
      by_cases longer : more = []
      · simp [longer]
      · rw [unquote?_append_eq_none closed longer] at unquoted
        cases unquoted
  · rintro ⟨rfl, _, unquoted, _⟩
    exact quotedPart?_exchange (quotedPart?_eq_self_iff.mpr unquoted) after

/-! ## Texts in parentheses -/

/-- What stands before a parenthesis that closes nothing is balanced, once the
parentheses and the quotes are closed that were open before it. -/
theorem Nesting.untilClosing?_split {nesting : Nesting} {text inner after : List Char}
    (found : nesting.untilClosing? text = some (inner, after)) :
    text = inner ++ ')' :: after ∧ nesting.scan? inner = some outside := by
  induction text generalizing nesting inner with
  | nil => cases found
  | cons character rest induction =>
      rw [untilClosing?] at found
      split at found
      · rename_i stuck
        rcases step?_eq_none_iff.mp stuck with ⟨rfl, rfl⟩
        cases found
        exact ⟨rfl, rfl⟩
      · rename_i next stepped
        rcases Option.map_eq_some_iff.mp found with ⟨⟨inner', after'⟩, closed, equal⟩
        cases equal
        rcases induction closed with ⟨rfl, scanned⟩
        exact ⟨rfl, by rw [scan?_cons, stepped, Option.bind_some, scanned]⟩

theorem Nesting.untilClosing?_of_scan? {nesting : Nesting} {text : List Char}
    (scanned : nesting.scan? text = some outside) (after : List Char) :
    nesting.untilClosing? (text ++ ')' :: after) = some (text, after) := by
  induction text generalizing nesting with
  | nil =>
      cases scanned
      rfl
  | cons character rest induction =>
      rw [scan?_cons, Option.bind_eq_some_iff] at scanned
      rcases scanned with ⟨next, stepped, scanned⟩
      rw [List.cons_append, untilClosing?, stepped]
      simp [induction scanned]

theorem Nesting.exists_untilClosing? {nesting : Nesting} {text : List Char}
    (closes : nesting.deeper.scan? text = some outside) :
    ∃ inner after, nesting.untilClosing? text = some (inner, after) := by
  induction text generalizing nesting with
  | nil => exact absurd (Option.some.inj closes) (deeper_ne_outside nesting)
  | cons character rest induction =>
      rw [untilClosing?]
      cases stepped : nesting.step? character with
      | none => exact ⟨_, _, rfl⟩
      | some next =>
          rw [scan?_cons, step?_deeper stepped, Option.bind_some] at closes
          rcases induction closes with ⟨inner, after, closed⟩
          simp only [closed]
          exact ⟨_, _, rfl⟩

end Criteria
