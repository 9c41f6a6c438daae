import Criteria.Condition.Subject
import Criteria.Proofs.Text.Blank
import Criteria.Proofs.Text.Closed

/-!
The subject at the start of a condition, as a relation.

A subject ends where something else follows: the quote or the parenthesis that
closes it, or the first character after a name. So it stays the same before another
text that goes on in the same way, and so it does whatever is added to a text that
goes on after it.
-/

namespace Criteria

namespace Subject

/-! ## What can stand at the start -/

theorem isNameCharacter_iff {character : Char} :
    isNameCharacter character = true ↔ isBlank character = false ∧
      isSymbolCharacter character = false ∧ character ∉ "\"()".toList := by
  simp [isNameCharacter, and_assoc]

/-- A name at the start of a text, which is as long as it can be. -/
structure IsName (name after : List Char) : Prop where
  nonempty : name ≠ []
  named : ∀ character ∈ name, isNameCharacter character = true
  stops : ∀ next ∈ after.head?, isNameCharacter next = false

theorem IsName.span_eq {name after : List Char} (isName : IsName name after) :
    (name ++ after).span isNameCharacter = (name, after) :=
  Text.span_eq_iff.mpr ⟨rfl, isName.named, isName.stops⟩

theorem IsName.head?_ne_quote {name after : List Char} (isName : IsName name after) :
    (name ++ after).head? ≠ some '"' := by
  rw [List.head?_append_of_ne_nil _ isName.nonempty]
  intro isHead
  exact (isNameCharacter_iff.mp (isName.named '"' (List.mem_of_mem_head? isHead))).2.2
    (by decide)

/-- A text that starts with a subject: the subject, its text, and the text after it. -/
inductive Reads : List Char → Subject → List Char → List Char → Prop
  | quoted {text part after : List Char}
      (isPart : Text.quotedPart? text = some (part, after)) :
      Reads text (.quoted part) part after
  | path {name after : List Char} (isName : IsName name after)
      (noCall : (Text.trimStart after).head? ≠ some '(') :
      Reads (name ++ after) (.path name) name after
  | call {name blanks inside inner after : List Char}
      (isName : IsName name (blanks ++ '(' :: inside))
      (blank : Text.allBlank blanks = true)
      (closed : Nesting.outside.untilClosing? inside = some (inner, after)) :
      Reads (name ++ (blanks ++ '(' :: inside)) (.call name inner)
        (name ++ blanks ++ '(' :: inner ++ [')']) after

theorem Reads.equal {text subjectText after : List Char} {subject : Subject}
    (reads : Reads text subject subjectText after) : text = subjectText ++ after := by
  cases reads with
  | quoted isPart => exact Text.quotedPart?_eq isPart
  | path => rfl
  | call _ _ closed => simp [(Nesting.untilClosing?_split closed).1]

theorem reads_of_read? {text subjectText after : List Char} {subject : Subject}
    (found : read? text = some (subject, subjectText, after)) :
    Reads text subject subjectText after := by
  unfold read? at found
  split at found
  · rcases Option.map_eq_some_iff.mp found with ⟨⟨part, after'⟩, isPart, equal⟩
    cases equal
    exact .quoted isPart
  rcases nameSpan : text.span isNameCharacter with ⟨name, afterName⟩
  rcases blankSpan : afterName.span isBlank with ⟨blanks, afterBlanks⟩
  simp only [nameSpan, blankSpan] at found
  split at found
  · cases found
  rename_i nonempty
  rw [List.isEmpty_iff] at nonempty
  rcases Text.span_eq_iff.mp nameSpan with ⟨rfl, named, stops⟩
  rcases Text.span_eq_iff.mp blankSpan with ⟨rfl, blank, solid⟩
  rw [← List.all_eq_true] at blank
  split at found
  · rcases Option.map_eq_some_iff.mp found with ⟨⟨inner, after'⟩, closed, equal⟩
    cases equal
    exact .call ⟨nonempty, named, stops⟩ blank closed
  · rename_i noCall
    cases found
    refine .path ⟨nonempty, named, stops⟩ ?_
    rw [Text.trimStart_append blank solid]
    intro isHead
    exact noCall _ (List.eq_cons_of_mem_head? isHead)

theorem Reads.read?_eq {text subjectText after : List Char} {subject : Subject}
    (reads : Reads text subject subjectText after) :
    read? text = some (subject, subjectText, after) := by
  cases reads with
  | quoted isPart =>
      rw [read?, if_pos (Text.head?_of_quotedPart? isPart), isPart, Option.map_some]
  | path isName noCall =>
      rw [read?, if_neg isName.head?_ne_quote]
      simp only [isName.span_eq, List.span_eq_takeWhile_dropWhile isBlank]
      rw [if_neg (by simpa using isName.nonempty)]
      split
      · rename_i starts
        rw [Text.trimStart, starts] at noCall
        exact absurd rfl noCall
      · rfl
  | @call _ blanks inside _ _ isName blank closed =>
      have blankSpan : (blanks ++ '(' :: inside).span isBlank = (blanks, '(' :: inside) :=
        Text.span_eq_iff.mpr ⟨rfl, List.all_eq_true.mp blank, by simp [isBlank]⟩
      rw [read?, if_neg isName.head?_ne_quote]
      simp only [isName.span_eq, blankSpan, closed]
      rw [if_neg (by simpa using isName.nonempty)]
      rfl

theorem read?_eq_some_iff {text subjectText after : List Char} {subject : Subject} :
    read? text = some (subject, subjectText, after) ↔
      Reads text subject subjectText after :=
  ⟨reads_of_read?, Reads.read?_eq⟩

/-! ## Subjects before other texts -/

theorem IsName.exchange {name after after' : List Char} (isName : IsName name after)
    (sameHead : after'.head? = after.head?) : IsName name after' :=
  ⟨isName.nonempty, isName.named, sameHead ▸ isName.stops⟩

/-- A subject is read before another text too, if that goes on with the same character
and, behind the blanks there, with the same one again. -/
theorem Reads.exchange {text subjectText after after' : List Char} {subject : Subject}
    (reads : Reads text subject subjectText after) (sameHead : after'.head? = after.head?)
    (sameStart : (Text.trimStart after').head? = (Text.trimStart after).head?) :
    Reads (subjectText ++ after') subject subjectText after' := by
  cases reads with
  | quoted isPart => exact .quoted (Text.quotedPart?_exchange isPart after')
  | path isName noCall => exact .path (isName.exchange sameHead) (sameStart ▸ noCall)
  | @call name blanks inside inner _ isName blank closed =>
      have scanned := (Nesting.untilClosing?_split closed).2
      have isName' : IsName name (blanks ++ '(' :: (inner ++ ')' :: after')) :=
        isName.exchange (by cases blanks <;> rfl)
      have reads :=
        Reads.call isName' blank (Nesting.untilClosing?_of_scan? scanned after')
      simpa using reads

theorem Reads.append {text subjectText after : List Char} {subject : Subject}
    (reads : Reads text subject subjectText after) (goesOn : Text.trimStart after ≠ [])
    (more : List Char) : Reads (text ++ more) subject subjectText (after ++ more) := by
  have filled : after ≠ [] := by
    rintro rfl
    exact goesOn rfl
  have sameStart :
      (Text.trimStart (after ++ more)).head? = (Text.trimStart after).head? := by
    rw [Text.trimStart_append_of_ne_nil goesOn, List.head?_append_of_ne_nil _ goesOn]
  rw [reads.equal, List.append_assoc]
  exact reads.exchange (List.head?_append_of_ne_nil _ filled) sameStart

end Subject

/-! ## Bare texts -/

def Condition.IsBare (text : List Char) : Prop :=
  ∀ character ∈ text, character ∉ "\"()".toList

theorem Subject.Reads.exists_path {text subjectText after : List Char} {subject : Subject}
    (reads : Reads text subject subjectText after) (bare : Condition.IsBare text) :
    ∃ name, text = name ++ after ∧ IsName name after := by
  cases reads with
  | quoted isPart =>
      have isQuoted := List.mem_of_mem_head? (Text.head?_of_quotedPart? isPart)
      exact absurd (by decide) (bare '"' isQuoted)
  | path isName => exact ⟨_, rfl, isName⟩
  | call => exact absurd (by decide) (bare '(' (by simp))

end Criteria
