import Criteria.Proofs.Text.Nesting
import Criteria.Term.Split

/-!
The terms of a text, described without reading it from left to right.

A text is tiled by its terms: it consists of blanks, of groups, which are balanced
texts in parentheses, and of words, which end where a blank or, after a keyword, a
parenthesis stands outside quotes and parentheses. `split_eq_ok_iff` says that `split`
finds exactly the tilings.
-/

namespace Criteria.Term

open Nesting (outside parenthesize)

/-! ## Words -/

/-- A word ends before a blank, and a keyword also before a parenthesis. -/
def EndsBefore (word : List Char) (next : Char) : Prop :=
  isBlank next = true ∨ next = '(' ∧ (keyword? word).isSome = true

/-- The text is no group and no part of one, and no word ends inside it. -/
structure Unbroken (text : List Char) : Prop where
  noGroup : text.head? ≠ some '('
  goesOn : ∀ before next after, text = before ++ next :: after → Nesting.Balanced before →
    ¬ EndsBefore before next

structure IsWord (text : List Char) : Prop extends Unbroken text where
  nonempty : text ≠ []
  balanced : Nesting.Balanced text

theorem unbroken_singleton {character : Char} (solid : isBlank character = false)
    (noGroup : character ≠ '(') : Unbroken [character] where
  noGroup := by simpa using noGroup
  goesOn before next after equal _ := by
    cases before with
    | nil =>
        cases equal
        simp [EndsBefore, solid, noGroup]
    | cons head rest => simp at equal

theorem Unbroken.append_singleton {word : List Char} {character : Char}
    (unbroken : Unbroken word) (nonempty : word ≠ [])
    (goesOn : Nesting.Balanced word → ¬ EndsBefore word character) :
    Unbroken (word ++ [character]) where
  noGroup := by
    cases word with
    | nil => exact absurd rfl nonempty
    | cons head rest => exact unbroken.noGroup
  goesOn before next after equal balanced := by
    rcases List.eq_nil_or_concat after with rfl | ⟨others, last, rfl⟩
    · rcases List.append_inj' equal rfl with ⟨rfl, same⟩
      cases same
      exact goesOn balanced
    · have shorter : word = before ++ next :: others := by
        have regrouped : word ++ [character] = (before ++ next :: others) ++ [last] := by
          simp [equal]
        exact (List.append_inj' regrouped rfl).1
      exact unbroken.goesOn before next others shorter balanced

/-! ## Tilings -/

/-- A term by itself, wherever it stands: a group or a word. -/
inductive WellFormed : Term → Prop
  | group {start : Nat} {inner : List Char} (balanced : Nesting.Balanced inner) :
      WellFormed ⟨.group, start, parenthesize inner⟩
  | word {start : Nat} {word : List Char} (isWord : IsWord word) :
      WellFormed ⟨wordKind word, start, word⟩

/-- The text, which starts at the byte offset `start`, consists of these terms
and of blanks. -/
inductive Tiled : Nat → List Char → List Term → Prop
  | nil {start : Nat} : Tiled start [] []
  | blank {start : Nat} {character : Char} {rest : List Char} {terms : List Term}
      (blank : isBlank character = true)
      (tiled : Tiled (start + character.utf8Size) rest terms) :
      Tiled start (character :: rest) terms
  | term {term : Term} {rest : List Char} {terms : List Term}
      (wellFormed : term.WellFormed)
      (ends : term.kind ≠ .group → ∀ next ∈ rest.head?, EndsBefore term.text next)
      (tiled : Tiled term.stop rest terms) :
      Tiled term.start (term.text ++ rest) (term :: terms)

theorem Tiled.group {start : Nat} {inner rest : List Char} {terms : List Term}
    (balanced : Nesting.Balanced inner)
    (tiled : Tiled (start + Text.byteSize (parenthesize inner)) rest terms) :
    Tiled start (parenthesize inner ++ rest)
      (⟨.group, start, parenthesize inner⟩ :: terms) :=
  Tiled.term (.group balanced) (fun notGroup => absurd rfl notGroup) tiled

theorem Tiled.word {start : Nat} {word rest : List Char} {terms : List Term}
    (isWord : IsWord word) (ends : ∀ next ∈ rest.head?, EndsBefore word next)
    (tiled : Tiled (start + Text.byteSize word) rest terms) :
    Tiled start (word ++ rest) (⟨wordKind word, start, word⟩ :: terms) :=
  Tiled.term (.word isWord) (fun _ => ends) tiled

theorem kind_ne_of_keyword? {text : List Char} {kind : Kind}
    (found : keyword? text = some kind) :
    kind ≠ .group ∧ kind ≠ .word := by
  unfold keyword? at found
  split at found
  · cases found
    simp
  split at found
  · cases found
    simp
  split at found
  · cases found
    simp
  · cases found

theorem wordKind_ne_group (text : List Char) : wordKind text ≠ .group := by
  unfold wordKind
  cases found : keyword? text with
  | none => simp
  | some kind => exact (kind_ne_of_keyword? found).1

theorem inner_parenthesize (kind : Kind) (start : Nat) (text : List Char) :
    inner ⟨kind, start, parenthesize text⟩ = text :=
  List.dropLast_concat

theorem WellFormed.of_group {term : Term} (wellFormed : term.WellFormed)
    (kind : term.kind = .group) :
    term.text = parenthesize term.inner ∧ Nesting.Balanced term.inner := by
  cases wellFormed with
  | group balanced => simpa [inner, parenthesize] using balanced
  | word isWord => exact absurd kind (wordKind_ne_group _)

theorem WellFormed.byteSize_of_group {term : Term} (wellFormed : term.WellFormed)
    (kind : term.kind = .group) :
    Text.byteSize term.text = 1 + Text.byteSize term.inner + 1 := by
  rw [(wellFormed.of_group kind).1, parenthesize, List.cons_append, Text.byteSize,
    Text.byteSize_append]
  rfl

theorem WellFormed.of_ne_group {term : Term} (wellFormed : term.WellFormed)
    (kind : term.kind ≠ .group) : term.kind = wordKind term.text ∧ IsWord term.text := by
  cases wellFormed with
  | group balanced => exact absurd rfl kind
  | word isWord => exact ⟨rfl, isWord⟩

theorem WellFormed.keyword?_eq {term : Term} (wellFormed : term.WellFormed)
    (notGroup : term.kind ≠ .group) (notWord : term.kind ≠ .word) :
    keyword? term.text = some term.kind := by
  rw [(wellFormed.of_ne_group notGroup).1, wordKind] at notWord ⊢
  cases keyword : keyword? term.text with
  | none =>
      rw [keyword] at notWord
      exact absurd rfl notWord
  | some kind => rfl

theorem WellFormed.relocate {term : Term} (wellFormed : term.WellFormed) (start : Nat) :
    WellFormed { term with start } := by
  cases wellFormed with
  | group balanced => exact .group balanced
  | word isWord => exact .word isWord

theorem WellFormed.balanced {term : Term} (wellFormed : term.WellFormed) :
    Nesting.Balanced term.text := by
  cases wellFormed with
  | group balanced => exact balanced.parenthesize
  | word isWord => exact isWord.balanced

theorem Tiled.wellFormed {start : Nat} {text : List Char} {terms : List Term}
    {term : Term} (tiled : Tiled start text terms) (member : term ∈ terms) :
    term.WellFormed := by
  induction tiled with
  | nil => cases member
  | blank _ _ induction => exact induction member
  | term wellFormed _ _ induction =>
      rcases List.mem_cons.mp member with rfl | member
      · exact wellFormed
      · exact induction member

theorem Tiled.balanced {start : Nat} {text : List Char} {terms : List Term}
    (tiled : Tiled start text terms) : Nesting.Balanced text := by
  induction tiled with
  | nil => exact Nesting.balanced_nil
  | blank blank _ induction =>
      exact (Nesting.balanced_singleton_of_blank blank).append induction
  | term wellFormed _ _ induction => exact wellFormed.balanced.append induction

theorem Tiled.allBlank_of_nil {start : Nat} {text : List Char}
    (tiled : Tiled start text []) :
    Text.allBlank text = true := by
  generalize none : ([] : List Term) = terms at tiled
  induction tiled with
  | nil => rfl
  | blank blank _ induction =>
      rw [Text.allBlank, List.all_cons, blank]
      exact induction none
  | term => cases none

theorem Tiled.blanks {start : Nat} {gap rest : List Char} {terms : List Term}
    (blank : Text.allBlank gap = true)
    (tiled : Tiled (start + Text.byteSize gap) rest terms) :
    Tiled start (gap ++ rest) terms := by
  induction gap generalizing start with
  | nil => exact tiled
  | cons character others induction =>
      rw [Text.allBlank, List.all_cons, Bool.and_eq_true] at blank
      rw [Text.byteSize, ← Nat.add_assoc] at tiled
      exact .blank blank.1 (induction blank.2 tiled)

theorem tiled_of_allBlank {text : List Char} (blank : Text.allBlank text = true)
    (start : Nat) :
    Tiled start text [] := by
  rw [← List.append_nil text]
  exact .blanks blank .nil

theorem Tiled.append {start : Nat} {left right : List Char} {terms others : List Term}
    (tiled : Tiled start left terms) (apart : ∀ next ∈ right.head?, isBlank next = true)
    (tiledNext : Tiled (start + Text.byteSize left) right others) :
    Tiled start (left ++ right) (terms ++ others) := by
  induction tiled with
  | nil => exact tiledNext
  | blank blank _ induction =>
      rw [Text.byteSize, ← Nat.add_assoc] at tiledNext
      exact .blank blank (induction tiledNext)
  | @term term rest terms wellFormed ends _ induction =>
      rw [Text.byteSize_append, ← Nat.add_assoc] at tiledNext
      rw [List.append_assoc]
      apply Tiled.term wellFormed _ (induction tiledNext)
      intro notGroup next isHead
      cases rest with
      | nil => exact .inl (apart next isHead)
      | cons first others => exact ends notGroup next isHead

namespace Splitter

/-! ## The states of a splitter

A splitter stands between two terms, inside a group, or inside a word. The equations say
what each character does to it there. -/

def between (terms : List Term) (offset : Nat) : Splitter :=
  ⟨terms, none, outside, offset⟩

def insideGroup (terms : List Term) (start : Nat) (inner : List Char)
    (nesting : Nesting) :
    Splitter :=
  ⟨terms, some ⟨true, start, ('(' :: inner).reverse⟩, nesting.deeper,
    start + Text.byteSize ('(' :: inner)⟩

def insideWord (terms : List Term) (start : Nat) (word : List Char) (nesting : Nesting) :
    Splitter :=
  ⟨terms, some ⟨false, start, word.reverse⟩, nesting, start + Text.byteSize word⟩

theorem step?_between_of_blank {terms : List Term} {offset : Nat} {character : Char}
    (blank : isBlank character = true) :
    (between terms offset).step? character =
      some (between terms (offset + character.utf8Size)) := by
  have stays := (Nesting.step?_eq_outside_iff_of_blank blank).mpr rfl
  simp [step?, between, stays, place, blank, finish, inGroup]

theorem step?_between_open {terms : List Term} {offset : Nat} :
    (between terms offset).step? '(' = some (insideGroup terms offset [] outside) := by
  rfl

theorem step?_between_of_solid {terms : List Term} {offset : Nat} {character : Char}
    (solid : isBlank character = false) (noGroup : character ≠ '(') :
    (between terms offset).step? character =
      (outside.step? character).map (insideWord terms offset [character]) := by
  cases stepped : outside.step? character with
  | none => simp [step?, between, stepped]
  | some next =>
      simp [step?, between, stepped, place, solid, noGroup, extend, inGroup, insideWord,
        Text.byteSize]

theorem step?_insideGroup {terms : List Term} {start : Nat} {inner : List Char}
    {nesting next : Nesting} {character : Char}
    (stepped : nesting.step? character = some next) :
    (insideGroup terms start inner nesting).step? character =
      some (insideGroup terms start (inner ++ [character]) next) := by
  simp [step?, insideGroup, Nesting.step?_deeper stepped, place,
    Nesting.deeper_ne_outside, extend, Text.byteSize, Nat.add_assoc]

theorem step?_insideGroup_close {terms : List Term} {start : Nat} {inner : List Char} :
    (insideGroup terms start inner outside).step? ')' =
      some (between (⟨.group, start, parenthesize inner⟩ :: terms)
        (start + Text.byteSize (parenthesize inner))) := by
  have closes : (insideGroup terms start inner outside).nesting.step? ')' =
      some outside :=
    Nesting.step?_deeper_close
  rw [step?, closes, Option.map_some]
  simp [insideGroup, place, Nesting.deeper_ne_outside, extend, inGroup, finish, between,
    Draft.finish, Draft.text, parenthesize, Text.byteSize, Nat.add_assoc]

theorem step?_insideWord_of_ends {terms : List Term} {start : Nat} {word : List Char}
    {next : Char} (ends : EndsBefore word next) :
    (insideWord terms start word outside).step? next =
      (between (⟨wordKind word, start, word⟩ :: terms)
        (start + Text.byteSize word)).step? next := by
  rcases ends with blank | ⟨rfl, keyword⟩
  · have stays := (Nesting.step?_eq_outside_iff_of_blank blank).mpr rfl
    rw [step?_between_of_blank blank]
    simp [step?, insideWord, stays, place, blank, finish, inGroup, between, Draft.finish,
      Draft.text]
  · have solid : isBlank '(' = false := by decide
    simp [step?, insideWord, place, solid, atKeyword, Draft.text, keyword, finish, extend,
      between, Draft.finish]

theorem step?_insideWord_of_not_ends {terms : List Term} {start : Nat} {word : List Char}
    {nesting : Nesting} {character : Char}
    (goesOn : nesting = outside → ¬ EndsBefore word character) :
    (insideWord terms start word nesting).step? character =
      (nesting.step? character).map (insideWord terms start (word ++ [character])) := by
  cases stepped : nesting.step? character with
  | none => simp [step?, insideWord, stepped]
  | some next =>
      have placed : (insideWord terms start word nesting).place character =
          (insideWord terms start word nesting).extend character := by
        unfold place
        change (if nesting = outside then _ else _) = _
        by_cases top : nesting = outside
        · have goes := goesOn top
          simp only [EndsBefore, not_or, not_and] at goes
          rw [if_pos top, if_neg goes.1, if_neg]
          rintro ⟨isOpen, keyword⟩
          exact goes.2 isOpen (by simpa [atKeyword, insideWord, Draft.text] using keyword)
        · rw [if_neg top]
      simp [step?, placed]
      simp [stepped, insideWord, extend, inGroup, Text.byteSize, Nat.add_assoc]

/-! ## What comes of a splitter -/

def outcome (splitter : Splitter) : List Char → Except Fault (List Term)
  | [] => splitter.terms?
  | character :: rest =>
      match splitter.step? character with
      | none => .error .unbalancedParentheses
      | some next => next.outcome rest

theorem outcome_cons {splitter next : Splitter} {character : Char} {rest : List Char}
    (stepped : splitter.step? character = some next) :
    splitter.outcome (character :: rest) = next.outcome rest := by
  rw [outcome, stepped]

theorem outcome_eq_foldlM (splitter : Splitter) (text : List Char) :
    splitter.outcome text =
      match text.foldlM step? splitter with
      | none => .error .unbalancedParentheses
      | some last => last.terms? := by
  induction text generalizing splitter with
  | nil => rfl
  | cons character rest induction =>
      rw [outcome, List.foldlM_cons]
      cases splitter.step? character with
      | none => rfl
      | some next => exact induction next

theorem outcome_between_nil (done : List Term) (offset : Nat) :
    (between done offset).outcome [] = .ok done.reverse := rfl

theorem outcome_insideGroup {done : List Term} {start : Nat} {inner more rest : List Char}
    {nesting last : Nesting} (scanned : nesting.scan? more = some last) :
    (insideGroup done start inner nesting).outcome (more ++ rest) =
      (insideGroup done start (inner ++ more) last).outcome rest := by
  induction more generalizing inner nesting with
  | nil =>
      cases scanned
      rw [List.append_nil]
      rfl
  | cons character others induction =>
      rw [Nesting.scan?_cons, Option.bind_eq_some_iff] at scanned
      rcases scanned with ⟨next, stepped, scanned⟩
      rw [List.cons_append, outcome_cons (step?_insideGroup stepped), induction scanned]
      simp

theorem outcome_insideWord {done : List Term} {start : Nat} {word more rest : List Char}
    {nesting last : Nesting} (unbroken : Unbroken (word ++ more))
    (read : outside.scan? word = some nesting)
    (scanned : nesting.scan? more = some last) :
    (insideWord done start word nesting).outcome (more ++ rest) =
      (insideWord done start (word ++ more) last).outcome rest := by
  induction more generalizing word nesting with
  | nil =>
      cases scanned
      rw [List.append_nil]
      rfl
  | cons character others induction =>
      rw [Nesting.scan?_cons, Option.bind_eq_some_iff] at scanned
      rcases scanned with ⟨next, stepped, scanned⟩
      have goesOn : nesting = outside → ¬ EndsBefore word character := by
        intro top
        exact unbroken.goesOn word character others rfl (read.trans (congrArg some top))
      have taken : (insideWord done start word nesting).step? character =
          some (insideWord done start (word ++ [character]) next) := by
        rw [step?_insideWord_of_not_ends goesOn, stepped]
        rfl
      have regrouped :
          word ++ character :: others = (word ++ [character]) ++ others := by simp
      rw [regrouped] at unbroken
      rw [List.cons_append, outcome_cons taken,
        induction unbroken (Nesting.scan?_append_singleton read stepped) scanned,
        regrouped]

theorem outcome_insideWord_of_ends {done : List Term} {start : Nat}
    {word rest : List Char} (ends : ∀ next ∈ rest.head?, EndsBefore word next) :
    (insideWord done start word outside).outcome rest =
      (between (⟨wordKind word, start, word⟩ :: done)
        (start + Text.byteSize word)).outcome rest := by
  cases rest with
  | nil => simp [outcome, terms?, insideWord, between, outside, finish, Draft.finish,
      Draft.text]
  | cons next others => rw [outcome, outcome, step?_insideWord_of_ends (ends next rfl)]

theorem outcome_word {done : List Term} {start : Nat} {word rest : List Char}
    (isWord : IsWord word) (ends : ∀ next ∈ rest.head?, EndsBefore word next) :
    (between done start).outcome (word ++ rest) =
      (between (⟨wordKind word, start, word⟩ :: done)
        (start + Text.byteSize word)).outcome rest := by
  cases word with
  | nil => exact absurd rfl isWord.nonempty
  | cons first others =>
      have goesOn := isWord.goesOn [] first others rfl Nesting.balanced_nil
      simp only [EndsBefore, not_or, Bool.not_eq_true] at goesOn
      have noGroup : first ≠ '(' := fun isOpen => isWord.noGroup (congrArg some isOpen)
      have balanced := isWord.balanced
      rw [Nesting.Balanced, Nesting.scan?_cons, Option.bind_eq_some_iff] at balanced
      rcases balanced with ⟨next, stepped, scanned⟩
      have taken : (between done start).step? first =
          some (insideWord done start [first] next) := by
        rw [step?_between_of_solid goesOn.1 noGroup, stepped]
        rfl
      have read : outside.scan? [first] = some next := by simp [stepped]
      have unbroken : Unbroken ([first] ++ others) := isWord.toUnbroken
      rw [List.cons_append, outcome_cons taken, outcome_insideWord unbroken read scanned]
      exact outcome_insideWord_of_ends ends

theorem outcome_group {done : List Term} {start : Nat} {inner rest : List Char}
    (balanced : Nesting.Balanced inner) :
    (between done start).outcome (parenthesize inner ++ rest) =
      (between (⟨.group, start, parenthesize inner⟩ :: done)
        (start + Text.byteSize (parenthesize inner))).outcome rest := by
  have opened : parenthesize inner ++ rest = '(' :: (inner ++ (')' :: rest)) := by
    simp [parenthesize]
  rw [opened, outcome_cons step?_between_open, outcome_insideGroup balanced,
    List.nil_append, outcome_cons step?_insideGroup_close]

end Splitter

theorem split_eq_outcome (start : Nat) (text : List Char) :
    split start text = (Splitter.between [] start).outcome text := by
  rw [Splitter.outcome_eq_foldlM]
  rfl

/-! ## Every tiling is found -/

theorem Tiled.outcome {start : Nat} {text : List Char} {terms : List Term}
    (tiled : Tiled start text terms) (done : List Term) :
    (Splitter.between done start).outcome text = .ok (done.reverse ++ terms) := by
  induction tiled generalizing done with
  | nil => rw [Splitter.outcome_between_nil, List.append_nil]
  | blank blank _ induction =>
      rw [Splitter.outcome_cons (Splitter.step?_between_of_blank blank), induction]
  | term wellFormed ends _ induction =>
      cases wellFormed with
      | group balanced =>
          rw [Splitter.outcome_group balanced]
          exact (induction _).trans (by simp)
      | word isWord =>
          rw [Splitter.outcome_word isWord (ends (wordKind_ne_group _))]
          exact (induction _).trans (by simp)

/-! ## Everything found is a tiling -/

/-- The splitter has read the text `pending`, which starts at `start`, since its last
finished term. -/
inductive Splitter.Stage : Splitter → Nat → List Char → Prop
  | between {done : List Term} {offset : Nat} : Stage (between done offset) offset []
  | insideGroup {done : List Term} {start : Nat} {inner : List Char} {nesting : Nesting}
      (scanned : outside.scan? inner = some nesting) :
      Stage (insideGroup done start inner nesting) start ('(' :: inner)
  | insideWord {done : List Term} {start : Nat} {word : List Char} {nesting : Nesting}
      (unbroken : Unbroken word) (nonempty : word ≠ [])
      (scanned : outside.scan? word = some nesting) :
      Stage (insideWord done start word nesting) start word

private def Sound (text : List Char) : Prop :=
  ∀ {splitter : Splitter} {start : Nat} {pending : List Char} {found : List Term},
    splitter.Stage start pending → splitter.outcome text = .ok found →
      ∃ terms, found = splitter.terms.reverse ++ terms ∧
        Tiled start (pending ++ text) terms

private theorem sound_nil : Sound [] := by
  intro splitter start pending found stage finished
  cases stage with
  | between =>
      rw [Splitter.outcome_between_nil] at finished
      cases finished
      exact ⟨[], by simp [Splitter.between], .nil⟩
  | insideGroup scanned =>
      rename_i done inner nesting
      by_cases plain : nesting.quoting = .plain <;>
        simp [Splitter.outcome, Splitter.terms?, Splitter.insideGroup,
          Nesting.deeper, plain] at finished
  | insideWord unbroken nonempty scanned =>
      rename_i done nesting
      have top : nesting = outside := by
        rcases nesting with ⟨depth, quoting⟩
        by_cases plain : quoting = .plain <;> by_cases flat : depth = 0 <;>
          simp [Splitter.outcome, Splitter.terms?, Splitter.insideWord, plain,
            flat] at finished
        rw [plain, flat]
        rfl
      subst top
      have isWord : IsWord pending := ⟨unbroken, nonempty, scanned⟩
      have ends : ∀ next ∈ ([] : List Char).head?, EndsBefore pending next := by simp
      rw [Splitter.outcome_insideWord_of_ends ends,
        Splitter.outcome_between_nil] at finished
      cases finished
      exact ⟨[_], by simp [Splitter.insideWord], .word isWord ends .nil⟩

private theorem sound_between {character : Char} {rest : List Char} (sound : Sound rest)
    {done : List Term} {offset : Nat} {found : List Term}
    (finished : (Splitter.between done offset).outcome (character :: rest) = .ok found) :
    ∃ terms, found = done.reverse ++ terms ∧ Tiled offset (character :: rest) terms := by
  by_cases blank : isBlank character = true
  · rw [Splitter.outcome_cons (Splitter.step?_between_of_blank blank)] at finished
    rcases sound .between finished with ⟨terms, foundEq, tiled⟩
    exact ⟨terms, foundEq, .blank blank tiled⟩
  by_cases isOpen : character = '('
  · subst isOpen
    rw [Splitter.outcome_cons Splitter.step?_between_open] at finished
    exact sound (.insideGroup rfl) finished
  have solid : isBlank character = false := by simpa using blank
  cases stepped : outside.step? character with
  | none =>
      rw [Splitter.outcome, Splitter.step?_between_of_solid solid isOpen,
        stepped] at finished
      cases finished
  | some next =>
      have taken : (Splitter.between done offset).step? character =
          some (Splitter.insideWord done offset [character] next) := by
        rw [Splitter.step?_between_of_solid solid isOpen, stepped]
        rfl
      rw [Splitter.outcome_cons taken] at finished
      have scanned : outside.scan? [character] = some next := by simp [stepped]
      exact sound (.insideWord (unbroken_singleton solid isOpen) (by simp) scanned)
        finished

private theorem sound_insideGroup {character : Char} {rest : List Char}
    (sound : Sound rest) {done : List Term} {start : Nat} {inner : List Char}
    {nesting : Nesting} {found : List Term} (scanned : outside.scan? inner = some nesting)
    (finished : (Splitter.insideGroup done start inner nesting).outcome
      (character :: rest) = .ok found) :
    ∃ terms, found = done.reverse ++ terms ∧
      Tiled start ('(' :: inner ++ character :: rest) terms := by
  cases stepped : nesting.step? character with
  | none =>
      -- What `inner` cannot take is the parenthesis that closes the group.
      rcases Nesting.step?_eq_none_iff.mp stepped with ⟨rfl, rfl⟩
      rw [Splitter.outcome_cons Splitter.step?_insideGroup_close] at finished
      rcases sound .between finished with ⟨terms, foundEq, tiled⟩
      refine ⟨⟨.group, start, parenthesize inner⟩ :: terms,
        by simp [foundEq, Splitter.between], ?_⟩
      have regrouped : '(' :: inner ++ ')' :: rest = parenthesize inner ++ rest := by
        simp [parenthesize]
      rw [regrouped]
      exact .group scanned tiled
  | some next =>
      rw [Splitter.outcome_cons (Splitter.step?_insideGroup stepped)] at finished
      rcases sound (.insideGroup (Nesting.scan?_append_singleton scanned stepped))
        finished with
        ⟨terms, foundEq, tiled⟩
      exact ⟨terms, foundEq, by simpa using tiled⟩

private theorem sound_insideWord {character : Char} {rest : List Char}
    (sound : Sound rest) {done : List Term} {start : Nat} {word : List Char}
    {nesting : Nesting} {found : List Term} (unbroken : Unbroken word)
    (nonempty : word ≠ []) (scanned : outside.scan? word = some nesting)
    (finished : (Splitter.insideWord done start word nesting).outcome
      (character :: rest) = .ok found) :
    ∃ terms, found = done.reverse ++ terms ∧
      Tiled start (word ++ character :: rest) terms := by
  by_cases ends : nesting = outside ∧ EndsBefore word character
  · -- The word ends here, and the character is read as one between two terms.
    rcases ends with ⟨rfl, ends⟩
    have endsHere : ∀ next ∈ (character :: rest).head?, EndsBefore word next := by
      intro next isHead
      cases isHead
      exact ends
    rw [Splitter.outcome_insideWord_of_ends endsHere] at finished
    rcases sound_between sound finished with ⟨terms, foundEq, tiled⟩
    exact ⟨⟨wordKind word, start, word⟩ :: terms, by simp [foundEq],
      .word ⟨unbroken, nonempty, scanned⟩ endsHere tiled⟩
  have goesOn : nesting = outside → ¬ EndsBefore word character := not_and.mp ends
  cases stepped : nesting.step? character with
  | none =>
      rw [Splitter.outcome, Splitter.step?_insideWord_of_not_ends goesOn,
        stepped] at finished
      cases finished
  | some next =>
      have taken : (Splitter.insideWord done start word nesting).step? character =
          some (Splitter.insideWord done start (word ++ [character]) next) := by
        rw [Splitter.step?_insideWord_of_not_ends goesOn, stepped]
        rfl
      rw [Splitter.outcome_cons taken] at finished
      have longer : Unbroken (word ++ [character]) := by
        apply unbroken.append_singleton nonempty
        intro balanced
        exact goesOn (Option.some.inj (scanned.symm.trans balanced))
      have read := Nesting.scan?_append_singleton scanned stepped
      rcases sound (.insideWord longer (by simp) read) finished with
        ⟨terms, foundEq, tiled⟩
      exact ⟨terms, foundEq, by simpa using tiled⟩

private theorem sound (text : List Char) : Sound text := by
  induction text with
  | nil => exact sound_nil
  | cons character rest induction =>
      intro splitter start pending found stage finished
      cases stage with
      | between => exact sound_between induction finished
      | insideGroup scanned => exact sound_insideGroup induction scanned finished
      | insideWord unbroken nonempty scanned =>
          exact sound_insideWord induction unbroken nonempty scanned finished

/-- Splitting a text succeeds exactly with the terms that tile it. -/
theorem split_eq_ok_iff {start : Nat} {text : List Char} {terms : List Term} :
    split start text = .ok terms ↔ Tiled start text terms := by
  rw [split_eq_outcome]
  constructor
  · intro finished
    rcases sound text .between finished with ⟨found, equal, tiled⟩
    rw [equal]
    exact tiled
  · intro tiled
    exact tiled.outcome []

end Criteria.Term
