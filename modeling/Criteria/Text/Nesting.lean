/-!
Quotes and parentheses of a text read from left to right.

A double quote opens a quoted run. Inside one a backslash takes the next character with
it and the next free double quote closes the run. Parentheses count outside quotes only.
`Nesting.step?` is the one rule for all this; every reader of expression text is built
on it, so all of them agree on which characters are structure and which are not.
-/

namespace Criteria

/-! ## Quotes -/

/-- Where a character stands: outside quotes, inside them, or inside them right after a
backslash. -/
inductive Quoting where
  | plain
  | quoted
  | escaped
  deriving DecidableEq, Repr

namespace Quoting

def step : Quoting → Char → Quoting
  | .plain, character => if character = '"' then .quoted else .plain
  | .quoted, character =>
      if character = '\\' then .escaped else if character = '"' then .plain else .quoted
  | .escaped, _ => .quoted

/-- The text up to and with the quote that ends the open run, and the text after it. -/
def closing? : Quoting → List Char → Option (List Char × List Char)
  | _, [] => none
  | quoting, character :: rest =>
      match quoting.step character with
      | .plain => some ([character], rest)
      | next => (next.closing? rest).map fun (run, after) => (character :: run, after)

theorem closing?_append {quoting : Quoting} {text run after : List Char}
    (closed : quoting.closing? text = some (run, after)) : run ++ after = text := by
  induction text generalizing quoting run after with
  | nil => simp [closing?] at closed
  | cons character rest induction =>
      simp only [closing?] at closed
      split at closed
      · simp only [Option.some.injEq, Prod.mk.injEq] at closed
        rcases closed with ⟨rfl, rfl⟩
        rfl
      · rcases Option.map_eq_some_iff.mp closed with ⟨⟨run', after'⟩, inner, equal⟩
        simp only [Prod.mk.injEq] at equal
        rcases equal with ⟨rfl, rfl⟩
        simp [induction inner]

end Quoting

/-! ## Quotes and parentheses together -/

structure Nesting where
  depth : Nat
  quoting : Quoting
  deriving DecidableEq, Repr

namespace Nesting

def outside : Nesting :=
  ⟨0, .plain⟩

def step? (nesting : Nesting) (character : Char) : Option Nesting :=
  match nesting.quoting, character with
  | .plain, '(' => some { nesting with depth := nesting.depth + 1 }
  | .plain, ')' =>
      if nesting.depth = 0 then none else some { nesting with depth := nesting.depth - 1 }
  | quoting, _ => some { nesting with quoting := quoting.step character }

def scan? (nesting : Nesting) (text : List Char) : Option Nesting :=
  text.foldlM step? nesting

/-- Every quote of the text is closed in it, and every parenthesis has its
partner there. -/
def Balanced (text : List Char) : Prop :=
  outside.scan? text = some outside

instance (text : List Char) : Decidable (Balanced text) :=
  inferInstanceAs (Decidable (_ = _))

@[simp] theorem scan?_nil (nesting : Nesting) : nesting.scan? [] = some nesting := rfl

@[simp] theorem scan?_cons (nesting : Nesting) (character : Char) (text : List Char) :
    nesting.scan? (character :: text) = (nesting.step? character).bind
      (·.scan? text) := by
  simp [scan?]

theorem scan?_append (nesting : Nesting) (left right : List Char) :
    nesting.scan? (left ++ right) = (nesting.scan? left).bind (·.scan? right) := by
  simp [scan?]

/-- The text before the first parenthesis that closes nothing opened in it, and the text
after that parenthesis. -/
def untilClosing? (nesting : Nesting) : List Char → Option (List Char × List Char)
  | [] => none
  | character :: rest =>
      match nesting.step? character with
      | none => some ([], rest)
      | some next => (next.untilClosing? rest).map fun (inner, after) =>
          (character :: inner, after)

def splitOutside (cut : Char) (nesting : Nesting) : List Char → List (List Char)
  | [] => [[]]
  | character :: rest =>
      if character = cut ∧ nesting = outside then [] :: splitOutside cut outside rest
      else
        (splitOutside cut ((nesting.step? character).getD nesting) rest).modifyHead
          (character :: ·)

end Nesting

end Criteria
