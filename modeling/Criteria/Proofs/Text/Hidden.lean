import Criteria.Proofs.Text.Nesting
import Criteria.Proofs.Text.Quoted

/-!
Characters that quotes and parentheses hide.

A reader that cuts a text at the characters of some class looks only at those outside
quotes and parentheses. A text hides the class if there are none, and it is uncut if it
is balanced besides. Uncut texts make up uncut texts. A quotation and a text in
parentheses are outside only where they start.
-/

namespace Criteria.Nesting

def Hides (cut : Char → Prop) (text : List Char) : Prop :=
  ∀ before next after, text = before ++ next :: after → Balanced before → ¬ cut next

variable {cut : Char → Prop} {left right text before after : List Char} {next : Char}

theorem balanced_append_iff (balanced : Balanced left) :
    Balanced (left ++ right) ↔ Balanced right := by
  unfold Balanced at *
  rw [scan?_append, balanced]
  rfl

theorem Balanced.cut_append (balanced : Balanced left)
    (equal : left ++ right = before ++ next :: after) (outside : Balanced before) :
    (∃ rest, left = before ++ next :: rest) ∨
      ∃ between, before = left ++ between ∧ right = between ++ next :: after ∧
        Balanced between := by
  rcases List.append_eq_append_iff.mp equal with
    ⟨between, rfl, rfl⟩ | ⟨between, rfl, restEq⟩
  · exact .inr ⟨between, rfl, rfl, (balanced_append_iff balanced).mp outside⟩
  · cases between with
    | nil => exact .inr ⟨[], by simp, restEq.symm, balanced_nil⟩
    | cons first rest =>
        cases restEq
        exact .inl ⟨rest, rfl⟩

theorem hides_of_forall (none : ∀ character ∈ text, ¬ cut character) :
    Hides cut text := by
  intro before next after equal _
  exact none next (by simp [equal])

/-- A text that such a reader passes as a whole, and is outside again. -/
structure Uncut (cut : Char → Prop) (text : List Char) : Prop where
  balanced : Balanced text
  hides : Hides cut text

theorem uncut_nil : Uncut cut [] :=
  ⟨balanced_nil, hides_of_forall (by simp)⟩

theorem Uncut.append (uncut : Uncut cut left) (uncut' : Uncut cut right) :
    Uncut cut (left ++ right) where
  balanced := uncut.balanced.append uncut'.balanced
  hides before next after equal outside := by
    rcases uncut.balanced.cut_append equal outside with
      ⟨rest, equal'⟩ | ⟨between, _, equal', outside'⟩
    · exact uncut.hides before next rest equal' outside
    · exact uncut'.hides between next after equal' outside'

/-! ## Enclosed texts -/

def IsEnclosed (text : List Char) : Prop :=
  ∀ before next after, text = before ++ next :: after → Balanced before → before = []

theorem IsEnclosed.uncut (enclosed : IsEnclosed text) (balanced : Balanced text)
    (starts : ∀ first ∈ text.head?, ¬ cut first) : Uncut cut text where
  balanced := balanced
  hides before next after equal outside := by
    cases enclosed before next after equal outside
    exact starts next (by simp [equal])

theorem isEnclosed_quote (content : List Char) : IsEnclosed (Text.quote content) := by
  intro before next after equal outside
  cases before with
  | nil => rfl
  | cons first others =>
      have stays := Quoting.after_ne_plain_of_quote equal (List.cons_ne_nil first others)
      exact absurd outside.after_eq_plain stays

theorem uncut_quote (noQuote : ¬ cut '"') (content : List Char) :
    Uncut cut (Text.quote content) := by
  apply (isEnclosed_quote content).uncut (balanced_quote content)
  rintro first ⟨⟩
  exact noQuote

theorem not_balanced_open (balanced : Balanced (left ++ right)) :
    ¬ Balanced ('(' :: left) := by
  unfold Balanced at *
  rw [scan?_append, Option.bind_eq_some_iff] at balanced
  rcases balanced with ⟨last, scanned, _⟩
  rw [scan?_cons, step?_outside_open, Option.bind_some, scan?_deeper scanned]
  exact fun closed => deeper_ne_outside last (Option.some.inj closed)

theorem isEnclosed_parenthesize (balanced : Balanced text) :
    IsEnclosed (parenthesize text) := by
  intro before next after equal outside
  cases before with
  | nil => rfl
  | cons first inside =>
      simp only [parenthesize, List.cons_append, List.cons.injEq] at equal
      rcases equal with ⟨rfl, equal⟩
      rcases List.append_eq_append_iff.mp equal with
        ⟨between, rfl, restEq⟩ | ⟨between, rfl, _⟩
      · cases between with
        | nil =>
            rw [List.append_nil] at outside
            exact absurd outside (not_balanced_open (by rwa [List.append_nil]))
        | cons _ others => simp at restEq
      · exact absurd outside (not_balanced_open balanced)

end Criteria.Nesting
