import Criteria.Proofs.Term.Keyword
import Criteria.Proofs.Text.Blank
import Criteria.Proofs.Text.Hidden

/-!
Words put together.

A balanced text that hides blanks and opening parentheses can be a part of any
word. A name with arguments in parentheses right after it is a word too, unless the
name is a keyword.
-/

namespace Criteria.Term

open Nesting (Balanced Uncut parenthesize)

def IsBreak (character : Char) : Prop :=
  isBlank character = true ∨ character = '('

abbrev IsSeamless : List Char → Prop :=
  Uncut IsBreak

theorem EndsBefore.isBreak {word : List Char} {next : Char}
    (ends : EndsBefore word next) :
    IsBreak next :=
  ends.imp id And.left

theorem IsPlain.not_isBreak {character : Char} (plain : IsPlain character) :
    ¬ IsBreak character := by
  rintro (blank | isOpen)
  · rw [plain.solid] at blank
    cases blank
  · exact plain.notOpen isOpen

variable {left right name text arguments : List Char}

theorem isSeamless_of_plain (plain : ∀ character ∈ text, IsPlain character) :
    IsSeamless text where
  balanced := balanced_of_plain plain
  hides := Nesting.hides_of_forall fun character member =>
    (plain character member).not_isBreak

theorem isSeamless_quote (content : List Char) : IsSeamless (Text.quote content) :=
  Nesting.uncut_quote (by simp [IsBreak, isBlank]) content

theorem IsSeamless.isWord (seamless : IsSeamless text) (nonempty : text ≠ []) :
    IsWord text where
  nonempty := nonempty
  balanced := seamless.balanced
  noGroup isOpen := by
    rcases List.head?_eq_some_iff.mp isOpen with ⟨rest, equal⟩
    exact seamless.hides [] '(' rest equal Nesting.balanced_nil (.inr rfl)
  goesOn before next after equal outside ends :=
    seamless.hides before next after equal outside ends.isBreak

theorem IsWord.append (isWord : IsWord left) (seamless : IsSeamless right) :
    IsWord (left ++ right) where
  nonempty := by simp [isWord.nonempty]
  balanced := isWord.balanced.append seamless.balanced
  noGroup := by
    rw [List.head?_append_of_ne_nil _ isWord.nonempty]
    exact isWord.noGroup
  goesOn before next after equal outside ends := by
    rcases isWord.balanced.cut_append equal outside with
      ⟨rest, equal'⟩ | ⟨between, _, equal', outside'⟩
    · exact isWord.goesOn before next rest equal' outside ends
    · exact seamless.hides between next after equal' outside' ends.isBreak

theorem isWord_call (nonempty : name ≠ []) (plain : ∀ character ∈ name, IsPlain character)
    (noKeyword : keyword? name = none) (balanced : Balanced arguments) :
    IsWord (name ++ parenthesize arguments) where
  nonempty := by simp [nonempty]
  balanced := (balanced_of_plain plain).append balanced.parenthesize
  noGroup := by
    rw [List.head?_append_of_ne_nil _ nonempty]
    exact (isWord_of_plain nonempty plain).noGroup
  goesOn before next after equal outside ends := by
    rcases (balanced_of_plain plain).cut_append equal outside with
      ⟨rest, equal'⟩ | ⟨between, rfl, equal', outside'⟩
    · exact (plain next (by simp [equal'])).not_isBreak ends.isBreak
    · -- The only place outside the parentheses is where they begin.
      cases Nesting.isEnclosed_parenthesize balanced between next after equal' outside'
      cases equal'
      rw [List.append_nil] at ends
      rcases ends with blank | ⟨_, keyword⟩
      · simp [isBlank] at blank
      · rw [noKeyword] at keyword
        cases keyword

end Criteria.Term
