import Criteria.Proofs.Text.Hidden

/-!
Texts cut at the places of one character that are outside quotes and parentheses.

The pieces of such a text are uncut, and with the character between them they make up
the text. That determines the pieces: whatever uncut texts are joined by the character,
cutting finds them again.
-/

namespace Criteria.Nesting

/-- A reader at this position that cuts at `cut` passes the text as a whole, and is
outside then. -/
inductive Passed (cut : Char) : Nesting → List Char → Prop
  | nil : Passed cut outside []
  | cons {nesting next : Nesting} {character : Char} {text : List Char}
      (goesOn : ¬ (character = cut ∧ nesting = outside))
      (stepped : nesting.step? character = some next) (passed : Passed cut next text) :
      Passed cut nesting (character :: text)

variable {cut : Char} {nesting : Nesting} {text : List Char}

theorem passed_iff : Passed cut nesting text ↔ nesting.scan? text = some outside ∧
    ∀ before next after, text = before ++ next :: after →
      nesting.scan? before = some outside →
      next ≠ cut := by
  constructor
  · intro passed
    induction passed with
    | nil => exact ⟨rfl, by simp⟩
    | cons goesOn stepped _ induction =>
        refine ⟨by rw [scan?_cons, stepped, Option.bind_some, induction.1], ?_⟩
        intro before next after equal scanned
        cases before with
        | nil =>
            cases equal
            cases scanned
            exact fun isCut => goesOn ⟨isCut, rfl⟩
        | cons _ others =>
            cases equal
            rw [scan?_cons, stepped, Option.bind_some] at scanned
            exact induction.2 others next after rfl scanned
  · rintro ⟨scanned, goesOn⟩
    induction text generalizing nesting with
    | nil =>
        cases scanned
        exact .nil
    | cons character others induction =>
        rw [scan?_cons, Option.bind_eq_some_iff] at scanned
        rcases scanned with ⟨next, stepped, scanned⟩
        have noCut : ¬ (character = cut ∧ nesting = outside) := by
          rintro ⟨isCut, rfl⟩
          exact goesOn [] character others rfl rfl isCut
        refine .cons noCut stepped
          (induction scanned fun before last after equal passed => ?_)
        exact goesOn (character :: before) last after (congrArg (character :: ·) equal)
          (by rw [scan?_cons, stepped]; exact passed)

theorem uncut_iff_passed : Uncut (· = cut) text ↔ Passed cut outside text := by
  rw [passed_iff]
  exact ⟨fun uncut => ⟨uncut.balanced, uncut.hides⟩, fun passed => ⟨passed.1, passed.2⟩⟩

/-! ## Pieces that are found again -/

theorem Passed.splitOutside_append (passed : Passed cut nesting text) (rest : List Char) :
    splitOutside cut nesting (text ++ rest) =
      (splitOutside cut outside rest).modifyHead (text ++ ·) := by
  induction passed with
  | nil => exact (congrFun List.modifyHead_id _).symm
  | cons goesOn stepped _ induction =>
      rw [List.cons_append, splitOutside, if_neg goesOn, stepped, Option.getD_some,
        induction, List.modifyHead_modifyHead]
      rfl

theorem Uncut.splitOutside_eq (uncut : Uncut (· = cut) text) :
    splitOutside cut outside text = [text] := by
  have whole := (uncut_iff_passed.mp uncut).splitOutside_append []
  rw [List.append_nil] at whole
  simp [whole, splitOutside]

theorem Uncut.splitOutside_cut (uncut : Uncut (· = cut) text) (rest : List Char) :
    splitOutside cut outside (text ++ cut :: rest) =
      text :: splitOutside cut outside rest := by
  rw [(uncut_iff_passed.mp uncut).splitOutside_append, splitOutside, if_pos ⟨rfl, rfl⟩]
  simp

theorem intercalate_cons_cons (first second : List Char) (others : List (List Char)) :
    [cut].intercalate (first :: second :: others) =
      first ++ cut :: [cut].intercalate (second :: others) := by
  rw [List.intercalate_cons_cons, List.append_assoc, List.singleton_append]

theorem splitOutside_intercalate {pieces : List (List Char)} (nonempty : pieces ≠ [])
    (uncut : ∀ piece ∈ pieces, Uncut (· = cut) piece) :
    splitOutside cut outside ([cut].intercalate pieces) = pieces := by
  induction pieces with
  | nil => exact absurd rfl nonempty
  | cons first others induction =>
      rcases List.forall_mem_cons.mp uncut with ⟨firstUncut, uncut⟩
      cases others with
      | nil =>
          rw [List.intercalate_singleton]
          exact firstUncut.splitOutside_eq
      | cons second others =>
          rw [intercalate_cons_cons, firstUncut.splitOutside_cut,
            induction (List.cons_ne_nil _ _) uncut]

/-! ## Every text has its pieces -/

theorem splitOutside_ne_nil (cut : Char) (nesting : Nesting) (text : List Char) :
    splitOutside cut nesting text ≠ [] := by
  induction text generalizing nesting with
  | nil => exact List.cons_ne_nil _ _
  | cons character rest induction =>
      rw [splitOutside]
      split
      · exact List.cons_ne_nil _ _
      · rw [ne_eq, List.modifyHead_eq_nil_iff]
        exact induction _

/-- Cutting loses nothing but the characters that it cuts at. -/
theorem intercalate_splitOutside (cut : Char) (nesting : Nesting) (text : List Char) :
    [cut].intercalate (splitOutside cut nesting text) = text := by
  induction text generalizing nesting with
  | nil => rfl
  | cons character rest induction =>
      rw [splitOutside]
      split
      · rename_i isCut
        have pieces := induction outside
        rcases List.exists_cons_of_ne_nil (splitOutside_ne_nil cut outside rest) with
          ⟨first, others, split⟩
        rw [split] at pieces ⊢
        rw [intercalate_cons_cons, pieces, isCut.1, List.nil_append]
      · have pieces := induction ((nesting.step? character).getD nesting)
        rcases List.exists_cons_of_ne_nil (splitOutside_ne_nil cut _ rest) with
          ⟨first, others, split⟩
        rw [split] at pieces ⊢
        rw [List.modifyHead_cons]
        cases others with
        | nil =>
            rw [List.intercalate_singleton] at pieces ⊢
            rw [pieces]
        | cons second others =>
            rw [intercalate_cons_cons] at pieces ⊢
            rw [List.cons_append, pieces]

theorem exists_splitOutside (plain : Balanced [cut])
    (scanned : nesting.scan? text = some outside) : ∃ first others,
      splitOutside cut nesting text = first :: others ∧ Passed cut nesting first ∧
      ∀ piece ∈ others, Uncut (· = cut) piece := by
  induction text generalizing nesting with
  | nil =>
      cases scanned
      exact ⟨[], [], rfl, .nil, by simp⟩
  | cons character rest induction =>
      rw [scan?_cons, Option.bind_eq_some_iff] at scanned
      rcases scanned with ⟨next, stepped, scanned⟩
      rcases induction scanned with ⟨first, others, split, passed, uncut⟩
      by_cases isCut : character = cut ∧ nesting = outside
      · rcases isCut with ⟨rfl, rfl⟩
        have stays : next = outside := by
          rw [Balanced, scan?_cons, stepped] at plain
          exact Option.some.inj plain
        rw [stays] at split passed
        refine ⟨[], first :: others, by rw [splitOutside, if_pos ⟨rfl, rfl⟩, split], .nil,
          ?_⟩
        exact List.forall_mem_cons.mpr ⟨uncut_iff_passed.mpr passed, uncut⟩
      · refine ⟨character :: first, others, ?_, .cons isCut stepped passed, uncut⟩
        rw [splitOutside, if_neg isCut, stepped, Option.getD_some, split,
          List.modifyHead_cons]

theorem uncut_of_mem_splitOutside {piece : List Char} (plain : Balanced [cut])
    (balanced : Balanced text) (member : piece ∈ splitOutside cut outside text) :
    Uncut (· = cut) piece := by
  rcases exists_splitOutside plain balanced with ⟨first, others, split, passed, uncut⟩
  rw [split] at member
  exact List.forall_mem_cons.mpr ⟨uncut_iff_passed.mpr passed, uncut⟩ piece member

end Criteria.Nesting
