import Criteria.Proofs.Condition.Written
import Criteria.Proofs.Text.Split

/-!
The arguments of a call, written between commas.

Each reader of a call follows quotes and parentheses, so a comma inside them ends no
argument, and whatever blanks stand around an argument are not part of it. Between the
parentheses there is nothing but blanks, or there are arguments; if one slot of several
is blank, the split fails.
-/

namespace Criteria

open Nesting (Balanced Uncut splitOutside outside)

namespace Subject

/-! ## Arguments and the slots for them -/

structure IsArgument (text : List Char) : Prop where
  isTrimmed : Text.IsTrimmed text
  uncut : Uncut (· = ',') text

theorem isArgument_quote (content : List Char) : IsArgument (Text.quote content) where
  isTrimmed := Text.isTrimmed_quote content
  uncut := Nesting.uncut_quote (by decide) content

structure Slot where
  before : List Char
  text : List Char
  after : List Char
  blankBefore : Text.allBlank before = true
  blankAfter : Text.allBlank after = true
  isArgument : text ≠ [] → IsArgument text

theorem uncut_of_allBlank {gap : List Char} (blank : Text.allBlank gap = true) :
    Uncut (· = ',') gap where
  balanced := (Term.tiled_of_allBlank blank 0).balanced
  hides := by
    apply Nesting.hides_of_forall
    rintro character member rfl
    exact absurd (List.all_eq_true.mp blank ',' member) (by decide)

namespace Slot

def written (slot : Slot) : List Char :=
  slot.before ++ slot.text ++ slot.after

theorem uncut (slot : Slot) : Uncut (· = ',') slot.written := by
  have ofText : Uncut (· = ',') slot.text := by
    by_cases blank : slot.text = []
    · rw [blank]
      exact Nesting.uncut_nil
    · exact (slot.isArgument blank).uncut
  exact ((uncut_of_allBlank slot.blankBefore).append ofText).append
    (uncut_of_allBlank slot.blankAfter)

theorem trim_written (slot : Slot) : Text.trim slot.written = slot.text := by
  by_cases blank : slot.text = []
  · have isBlank : Text.allBlank slot.written = true := by
      rw [written, blank, List.append_nil]
      exact Text.allBlank_append slot.blankBefore slot.blankAfter
    rw [blank, ← List.isEmpty_iff, Text.isEmpty_trim, isBlank]
  · exact Text.trim_eq slot.blankBefore slot.blankAfter (slot.isArgument blank).isTrimmed

theorem allBlank_written (slot : Slot) :
    Text.allBlank slot.written = slot.text.isEmpty := by
  rw [← Text.isEmpty_trim, slot.trim_written]

def join (slots : List Slot) : List Char :=
  [','].intercalate (slots.map written)

theorem join_cons_cons (first second : Slot) (others : List Slot) :
    join (first :: second :: others) = first.written ++ ',' :: join (second :: others) :=
  Nesting.intercalate_cons_cons _ _ _

theorem balanced_join (slots : List Slot) : Balanced (join slots) := by
  have comma : Balanced [','] := rfl
  induction slots with
  | nil => exact Nesting.balanced_nil
  | cons first others induction =>
      cases others with
      | nil => simpa [join] using first.uncut.balanced
      | cons second others =>
          rw [join_cons_cons]
          exact first.uncut.balanced.append (comma.append induction)

theorem splitOutside_join {slots : List Slot} (nonempty : slots ≠ []) :
    splitOutside ',' outside (join slots) = slots.map written := by
  apply Nesting.splitOutside_intercalate (by simpa using nonempty)
  intro piece member
  rcases List.mem_map.mp member with ⟨slot, _, rfl⟩
  exact slot.uncut

theorem allBlank_join {slots : List Slot} (several : 2 ≤ slots.length ∨
    ∃ slot ∈ slots, slot.text ≠ []) : Text.allBlank (join slots) = false := by
  match slots, several with
  | [], several => simp at several
  | [slot], several =>
      have filled : slot.text ≠ [] := by simpa using several
      rw [join, List.map_singleton, List.intercalate_singleton, allBlank_written]
      simpa using filled
  | first :: second :: others, _ =>
      have comma : isBlank ',' = false := by decide
      simp [join_cons_cons, Text.allBlank, comma]

theorem arguments?_join {slots : List Slot} (several : 2 ≤ slots.length ∨
    ∃ slot ∈ slots, slot.text ≠ []) : arguments? (join slots) =
      if (slots.map text).any (·.isEmpty) then none else some (slots.map text) := by
  have nonempty : slots ≠ [] := by
    rintro rfl
    simp at several
  have trimmed : (slots.map written).map Text.trim = slots.map text := by
    rw [List.map_map]
    exact List.map_congr_left fun slot _ => slot.trim_written
  rw [arguments?, if_neg (by simp [allBlank_join several]), splitOutside_join nonempty]
  simp only [trimmed]

end Slot

/-- The text between the parentheses of a call with these arguments. -/
inductive Lists : List Char → List (List Char) → Prop
  | nothing {text : List Char} (blank : Text.allBlank text = true) : Lists text []
  | slots {slots : List Slot} (filled : ∀ slot ∈ slots, slot.text ≠ []) :
      Lists (Slot.join slots) (slots.map Slot.text)

theorem Lists.balanced {text : List Char} {arguments : List (List Char)}
    (lists : Lists text arguments) : Balanced text := by
  cases lists with
  | nothing blank => exact (uncut_of_allBlank blank).balanced
  | slots => exact Slot.balanced_join _

theorem Lists.arguments?_eq {text : List Char} {arguments : List (List Char)}
    (lists : Lists text arguments) : arguments? text = some arguments := by
  cases lists with
  | nothing blank => rw [arguments?, if_pos blank]
  | @slots slots filled =>
      cases slots with
      | nil => rfl
      | cons first others =>
          have isFilled := filled first List.mem_cons_self
          rw [Slot.arguments?_join (.inr ⟨first, List.mem_cons_self, isFilled⟩), if_neg]
          simpa using filled

theorem Slot.arguments?_join_eq_none {slots : List Slot} {slot : Slot}
    (several : 2 ≤ slots.length) (member : slot ∈ slots) (blank : slot.text = []) :
    arguments? (join slots) = none := by
  rw [arguments?_join (.inl several), if_pos]
  rw [List.any_map, List.any_eq_true]
  exact ⟨slot, member, by simp [blank]⟩

end Subject

end Criteria
