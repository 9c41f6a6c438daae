import Mathlib.Data.List.Forall2
import Criteria.Proofs.Condition.Choice
import Criteria.Proofs.Offset.Subject

/-!
Taking a condition apart at byte offsets.

The words behind a subject are spans, and a name of several words is the slice from the
first to the last of them. The spans of the first words are those of a phrase, so the
longest phrase that is a name is found from its spans.
-/

namespace Criteria.Offset

open Condition (Parts Phrase exists_phrase exists_word_of_solid keywordName?
  length_phrases_eq_min literal? operator? operator?_eq_keywordName?
  operator?_eq_some_iff phrases phrases_succ words_eq_cons)
open Text (words)

variable {m : Type → Type}

/-! ## The spans of words -/

def spansFrom (text : List Char) (start : Nat) : (limit : Nat) → Checked (List Span)
  | 0 => return []
  | limit + 1 =>
      if start < Text.byteSize text then do
        let stop ← findFrom isBlank text start
        let next ← findFrom (!isBlank ·) text stop
        let spans ← spansFrom text next limit
        return ⟨start, stop⟩ :: spans
      else return []

def wordSpans (text : List Char) (start limit : Nat) : Checked (List Span) := do
  let first ← findFrom (!isBlank ·) text start
  spansFrom text first limit

theorem spansFrom_word {before word blanks next : List Char} (filled : word ≠ [])
    (isWord : ∀ character ∈ word, isBlank character = false)
    (stops : ∀ character ∈ (blanks ++ next).head?, isBlank character = true)
    (blank : ∀ character ∈ blanks, isBlank character = true)
    (solid : ∀ character ∈ next.head?, isBlank character = false) (limit : Nat) :
    spansFrom (before ++ (word ++ (blanks ++ next))) (Text.byteSize before) (limit + 1) =
      spansFrom (before ++ (word ++ (blanks ++ next)))
        (Text.byteSize (before ++ word ++ blanks)) limit >>= fun spans =>
          .ok (⟨Text.byteSize before, Text.byteSize before + Text.byteSize word⟩ ::
            spans) := by
  have inside :
      Text.byteSize before < Text.byteSize (before ++ (word ++ (blanks ++ next))) := by
    have positive := Text.byteSize_pos filled
    simp only [Text.byteSize_append]
    omega
  have stop : findFrom isBlank (before ++ (word ++ (blanks ++ next)))
      (Text.byteSize before) = .ok (Text.byteSize before + Text.byteSize word) :=
    findFrom_append isWord stops
  have skipped : findFrom (!isBlank ·) (before ++ (word ++ (blanks ++ next)))
      (Text.byteSize before + Text.byteSize word) =
      .ok (Text.byteSize (before ++ word ++ blanks)) := by
    have found := @findFrom_append (!isBlank ·) (before ++ word) blanks next
      (by simpa using blank) (by simpa using solid)
    rw [List.append_assoc, Text.byteSize_append before word] at found
    rw [found, Text.byteSize_append, Text.byteSize_append]
  rw [spansFrom, if_pos inside, stop, ok_bind, skipped, ok_bind]
  rfl

theorem spansFrom_eq {before whole : List Char}
    (solid : ∀ character ∈ whole.head?, isBlank character = false) (limit : Nat) :
    ∃ spans, spansFrom (before ++ whole) (Text.byteSize before) limit = .ok spans ∧
      List.Forall₂ (fun span word => span.Covers (before ++ whole) word) spans
        ((words whole).take limit) ∧
      List.Forall₂ (fun span phrase => span.stop = Text.byteSize before +
        Text.byteSize phrase.text) spans (phrases limit whole) := by
  induction limit generalizing before whole with
  | zero => exact ⟨[], rfl, .nil, .nil⟩
  | succ limit induction =>
      by_cases nonempty : whole = []
      · subst nonempty
        refine ⟨[], ?_, .nil, .nil⟩
        rw [spansFrom, List.append_nil, if_neg (Nat.lt_irrefl _)]
        rfl
      rcases exists_word_of_solid nonempty solid with ⟨word, afterWord, wordSpan, filled⟩
      rcases blankSpan : afterWord.span isBlank with ⟨blanks, next⟩
      rw [words_eq_cons wordSpan filled blankSpan, phrases_succ wordSpan filled blankSpan]
      rcases Text.span_eq_iff.mp wordSpan with ⟨rfl, isWord, stops⟩
      rcases Text.span_eq_iff.mp blankSpan with ⟨rfl, blank, solid'⟩
      rcases @induction (before ++ word ++ blanks) next solid' with
        ⟨spans, later, covered, ended⟩
      have text : before ++ word ++ blanks ++ next =
          before ++ (word ++ (blanks ++ next)) := by
        simp
      rw [text] at later covered
      refine ⟨⟨Text.byteSize before, Text.byteSize before + Text.byteSize word⟩ :: spans,
        ?_, .cons ⟨before, blanks ++ next, (List.append_assoc ..).symm, rfl, rfl⟩ covered,
        .cons rfl ?_⟩
      · rw [spansFrom_word filled (by simpa using isWord)
          (by simpa using stops) blank solid', later]
        rfl
      · rw [List.forall₂_map_right_iff]
        refine ended.imp fun span phrase isEnd => ?_
        simp only [isEnd, Text.byteSize_append]
        omega

/-! ## Names -/

def entries {Item : Type} (items : List Item) (count : Nat) : Checked (List Item) :=
  if count ≤ items.length then .ok (items.take count) else .error (.trap .entry)

def named? (operators : OperatorTable m) (text : List Char) (start : Nat)
    (spans : List Span) (count : Nat) :
    Checked (Option (List Char × Operator m × Nat)) := do
  let chosen ← entries spans count
  let name ← chosen.mapM (slice text)
  match operators.keyword? name with
  | none => return none
  | some operator => do
      let last ← minus count 1
      let span ← entry spans last
      let nameText ← slice text ⟨start, span.stop⟩
      return some (nameText, operator, span.stop)

def longestNamed? (operators : OperatorTable m) (text : List Char) (start : Nat)
    (spans : List Span) : (count : Nat) → Checked (Option (List Char × Operator m × Nat))
  | 0 => return none
  | count + 1 => do
      match ← named? operators text start spans (count + 1) with
      | some found => return some found
      | none => longestNamed? operators text start spans count

theorem mapM_slice_eq {text : List Char} {spans : List Span} {parts : List (List Char)}
    (covered : List.Forall₂ (fun span part => span.Covers text part) spans parts) :
    spans.mapM (slice text) = .ok parts := by
  induction covered with
  | nil => rfl
  | cons covers _ induction =>
      rw [List.mapM_cons, slice_eq covers, ok_bind, induction, ok_bind]
      rfl

section Names

variable {operators : OperatorTable m} {before whole : List Char} {limit : Nat}
  {spans : List Span}

theorem named?_eq {count : Nat} {phrase : Phrase}
    (solid : ∀ character ∈ whole.head?, isBlank character = false)
    (covered : List.Forall₂ (fun span word => span.Covers (before ++ whole) word) spans
      ((words whole).take limit))
    (ended : List.Forall₂ (fun span phrase => span.stop = Text.byteSize before +
      Text.byteSize phrase.text) spans (phrases limit whole))
    (found : (phrases limit whole)[count]? = some phrase) :
    named? operators (before ++ whole) (Text.byteSize before) spans (count + 1) =
      .ok ((operators.keyword? phrase.words).map fun operator =>
        (phrase.text, operator, Text.byteSize before + Text.byteSize phrase.text)) := by
  have within : count < (phrases limit whole).length :=
    (List.getElem?_eq_some_iff.mp found).1
  have isCount : spans.length = (phrases limit whole).length := ended.length_eq
  rw [length_phrases_eq_min solid] at within isCount
  rcases exists_phrase solid within with ⟨_, found', leads, _, isTake⟩
  cases found.symm.trans found'
  have chosen : entries spans (count + 1) = .ok (spans.take (count + 1)) :=
    if_pos (by omega)
  have spelled : (spans.take (count + 1)).mapM (slice (before ++ whole)) =
      .ok phrase.words := by
    rw [isTake]
    apply mapM_slice_eq
    have first := List.forall₂_take (count + 1) covered
    rwa [List.take_take, Nat.min_eq_left (by omega)] at first
  have isEnd : ∃ span, spans[count]? = some span ∧
      span.stop = Text.byteSize before + Text.byteSize phrase.text := by
    have inside : count < spans.length := by omega
    refine ⟨spans[count], List.getElem?_eq_getElem inside, ?_⟩
    have same :=
      List.Forall₂.get ended inside (by rw [length_phrases_eq_min solid]; exact within)
    rcases List.getElem?_eq_some_iff.mp found with ⟨_, isPhrase⟩
    rw [← isPhrase]
    exact same
  rcases isEnd with ⟨span, isSpan, stop⟩
  have isEntry : entry spans count = .ok span := by rw [entry, isSpan]
  have nameText : slice (before ++ whole) ⟨Text.byteSize before,
      Text.byteSize before + Text.byteSize phrase.text⟩ = .ok phrase.text :=
    slice_eq ⟨before, phrase.after, by rw [leads.equal, List.append_assoc], rfl, rfl⟩
  simp only [named?, chosen, spelled, ok_bind]
  cases operators.keyword? phrase.words with
  | none => rfl
  | some operator =>
      simp only [minus_add, isEntry, stop, nameText, ok_bind]
      rfl

theorem longestNamed?_eq
    (solid : ∀ character ∈ whole.head?, isBlank character = false)
    (covered : List.Forall₂ (fun span word => span.Covers (before ++ whole) word) spans
      ((words whole).take limit))
    (ended : List.Forall₂ (fun span phrase => span.stop = Text.byteSize before +
      Text.byteSize phrase.text) spans (phrases limit whole)) :
    longestNamed? operators (before ++ whole) (Text.byteSize before) spans spans.length =
      .ok ((keywordName? operators limit whole).map fun found =>
        (found.1, found.2.1, Text.byteSize before + Text.byteSize found.1)) := by
  suffices shorter : ∀ count ≤ spans.length,
      longestNamed? operators (before ++ whole) (Text.byteSize before) spans count =
        .ok ((((phrases limit whole).take count).reverse.findSome? fun phrase =>
          (operators.keyword? phrase.words).map fun operator =>
            (phrase.text, operator, phrase.after)).map fun found =>
          (found.1, found.2.1, Text.byteSize before + Text.byteSize found.1)) by
    rw [shorter _ (Nat.le_refl _), ended.length_eq, List.take_length]
    rfl
  intro count
  induction count with
  | zero => exact fun _ => rfl
  | succ count induction =>
      intro within
      have inside : count < (phrases limit whole).length := by
        rw [← ended.length_eq]
        exact within
      have found := List.getElem?_eq_getElem inside
      rw [longestNamed?, named?_eq solid covered ended found, ok_bind, List.take_add_one,
        found, Option.toList_some, List.reverse_append, List.reverse_singleton,
        List.singleton_append, List.findSome?_cons]
      cases operators.keyword? (phrases limit whole)[count].words with
      | none => exact induction (Nat.le_of_succ_le within)
      | some operator => rfl

end Names

/-! ## Operators -/

def readOperator (operators : OperatorTable m) (text : List Char) (start : Nat) :
    Checked (Option (List Char × Operator m × Nat)) := do
  let rest ← sliceFrom text start
  if rest.head?.any isSymbolCharacter then do
    let length := find (!isSymbolCharacter ·) rest
    let symbol ← slice rest ⟨0, length⟩
    return (operators.symbol? symbol).map fun operator =>
      (symbol, operator, start + length)
  else do
    let spans ← wordSpans text start operators.longestKeyword
    longestNamed? operators text start spans spans.length

theorem readOperator_eq (operators : OperatorTable m) {before whole : List Char}
    (solid : ∀ character ∈ whole.head?, isBlank character = false) :
    readOperator operators (before ++ whole) (Text.byteSize before) =
      .ok ((operator? operators whole).map fun found =>
        (found.1, found.2.1, Text.byteSize before + Text.byteSize found.1)) := by
  rw [readOperator, sliceFrom_append, ok_bind]
  by_cases isSymbol : whole.head?.any isSymbolCharacter
  · rw [if_pos isSymbol, operator?, if_pos isSymbol]
    rcases symbolSpan : whole.span isSymbolCharacter with ⟨symbol, after⟩
    rcases Text.span_eq_iff.mp symbolSpan with ⟨rfl, symbols, stops⟩
    have found : find (!isSymbolCharacter ·) (symbol ++ after) = Text.byteSize symbol :=
      find_append (by simpa using symbols) (by simpa using stops)
    simp only [found, slice_first, ok_bind, Option.map_map]
    rfl
  · have noSymbol : whole.head?.any isSymbolCharacter = false := by simpa using isSymbol
    have skipped : findFrom (!isBlank ·) (before ++ whole) (Text.byteSize before) =
        .ok (Text.byteSize before) :=
      @findFrom_append (!isBlank ·) before [] whole (by simp) (by simpa using solid)
    rcases spansFrom_eq solid operators.longestKeyword with ⟨spans, found, covered, ended⟩
    rw [if_neg isSymbol, operator?_eq_keywordName? noSymbol, wordSpans, skipped, ok_bind,
      found, ok_bind, longestNamed?_eq solid covered ended]

/-! ## Conditions -/

def parts? (operators : OperatorTable m) (text : List Char) :
    Checked (Option (Parts m)) := do
  match ← readSubject text with
  | none => return none
  | some (subject, subjectStop) => do
      let start ← findFrom (!isBlank ·) text subjectStop
      match ← readOperator operators text start with
      | none => return none
      | some (operatorText, operator, operatorStop) => do
          let afterOperator ← sliceFrom text operatorStop
          let literalText := Text.trim afterOperator
          match literal? operators literalText with
          | none => return none
          | some literal => do
              let subjectText ← slice text ⟨0, subjectStop⟩
              return some
                { subject, subjectText, operatorText, literalText, operator, literal }

theorem parts?_eq (operators : OperatorTable m) (text : List Char) :
    parts? operators text = .ok (Condition.parts? operators text) := by
  rw [parts?, readSubject_eq, Condition.parts?, ok_bind]
  cases isSubject : Subject.read? text with
  | none => rfl
  | some read =>
      rcases read with ⟨subject, subjectText, afterSubject⟩
      cases (Subject.read?_eq_some_iff.mp isSubject).equal
      rcases Text.exists_trimStart afterSubject with ⟨gap, split, blank, solid⟩
      have skipped :
          findFrom (!isBlank ·) (subjectText ++ afterSubject) (Text.byteSize subjectText)
          = .ok (Text.byteSize (subjectText ++ gap)) := by
        have found :=
          @findFrom_append (!isBlank ·) subjectText gap (Text.trimStart afterSubject)
          (by simpa using List.all_eq_true.mp blank) (by simpa using solid)
        rwa [← split, ← Text.byteSize_append] at found
      have isText : subjectText ++ gap ++ Text.trimStart afterSubject =
          subjectText ++ afterSubject := by
        rw [List.append_assoc, ← split]
      have operatorRead := @readOperator_eq m operators (subjectText ++ gap) _ solid
      rw [isText] at operatorRead
      simp only [Option.map_some, skipped, operatorRead, ok_bind, Option.bind_eq_bind,
        Option.bind_some]
      cases isOperator : operator? operators (Text.trimStart afterSubject) with
      | none => rfl
      | some read =>
          rcases read with ⟨operatorText, operator, afterOperator⟩
          have equal := ((operator?_eq_some_iff solid).mp isOperator).equal
          have rest : sliceFrom (subjectText ++ afterSubject)
              (Text.byteSize (subjectText ++ gap) + Text.byteSize operatorText) =
              .ok afterOperator := by
            rw [← isText, equal, ← List.append_assoc, ← Text.byteSize_append,
              sliceFrom_append]
          simp only [Option.map_some, rest, ok_bind, slice_first, Option.bind_some]
          cases literal? operators (Text.trim afterOperator) <;> rfl

end Criteria.Offset
