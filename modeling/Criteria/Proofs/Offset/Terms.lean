import Criteria.Expr.Parser
import Criteria.Proofs.Offset.Basic
import Criteria.Proofs.Term.Tiling

/-!
Splitting an expression into ranges.

A scanner keeps where the term that has begun starts, and not its text. The text of it
is the slice from there on when it is needed: to see whether it is a keyword so far, and
to tell its kind when it ends. Where a scanner stands in a text it is the image of a
splitter there, so that slice is the text that the splitter has kept, and the scanner
comes to the ranges of the terms.
-/

namespace Criteria

open Offset (Checked slice minus sound)

/-- A term by its range in the expression. -/
inductive TermRange where
  | connective (connective : Connective) (span : Span)
  | negation (span : Span)
  | group (span inner : Span)
  | word (span : Span)
  deriving DecidableEq, Repr

namespace TermRange

def bare (span : Span) : Term.Kind → TermRange
  | .connective between => .connective between span
  | .negation => .negation span
  | _ => .word span

def span : TermRange → Span
  | .connective _ span => span
  | .negation span => span
  | .group span _ => span
  | .word span => span

def classify (source : List Char) (span : Span) (isGroup : Bool) : Checked TermRange :=
  if isGroup then do
    let stop ← minus span.stop 1
    return .group span ⟨span.start + 1, stop⟩
  else do
    let word ← slice source span
    return bare span (Term.wordKind word)

end TermRange

def Term.range (term : Term) : TermRange :=
  match term.kind with
  | .group => .group ⟨term.start, term.stop⟩ ⟨term.start + 1, term.stop - 1⟩
  | kind => .bare ⟨term.start, term.stop⟩ kind

theorem Term.range_ne_connective {term : Term}
    (unconnected : ∀ connective, term.kind ≠ .connective connective)
    (connective : Connective) (span : Span) :
    term.range ≠ .connective connective span := by
  rcases term with ⟨kind, start, text⟩
  cases kind with
  | connective connective' => exact absurd rfl (unconnected connective')
  | _ =>
      intro equal
      cases equal

/-! ## Scanners -/

structure Scanner where
  ranges : List TermRange
  start : Option Nat
  isGroup : Bool
  depth : Nat
  quoting : Quoting

namespace Scanner

def finish (source : List Char) (stop : Nat) (isGroup : Bool) (scanner : Scanner) :
    Checked Scanner :=
  match scanner.start with
  | none => return scanner
  | some start => do
      let range ← TermRange.classify source ⟨start, stop⟩ isGroup
      return { scanner with ranges := range :: scanner.ranges, start := none }

def finishKeyword (source : List Char) (stop : Nat) (scanner : Scanner) :
    Checked Scanner :=
  match scanner.depth, scanner.start with
  | 0, some start => do
      let word ← slice source ⟨start, stop⟩
      if (Term.keyword? word).isSome then scanner.finish source stop false
        else return scanner
  | _, _ => return scanner

def begin (start : Nat) (isGroup : Bool) (scanner : Scanner) : Scanner :=
  match scanner.start with
  | none => { scanner with start := some start, isGroup }
  | some _ => scanner

def step (source : List Char) (offset : Nat) (character : Char) (scanner : Scanner) :
    Checked Scanner :=
  match scanner.quoting with
  | .plain =>
      if isBlank character then
        if scanner.depth = 0 then scanner.finish source offset scanner.isGroup
          else return scanner
      else if character = '(' then do
        let scanner ← scanner.finishKeyword source offset
        return { scanner.begin offset true with depth := scanner.depth + 1 }
      else if character = ')' then
        if scanner.depth = 0 then
          throw (.error (Term.Fault.unbalancedParentheses.error source))
        else do
          let depth ← minus scanner.depth 1
          let next := { scanner with depth := depth }
          if depth = 0 ∧ scanner.isGroup then next.finish source (offset + 1) true
            else return next
      else
        return { scanner.begin offset false with quoting := Quoting.plain.step character }
  | quoting => return { scanner with quoting := quoting.step character }

def run (source : List Char) (offset : Nat) : List Char → Scanner → Checked Scanner
  | [], scanner => return scanner
  | character :: rest, scanner => do
      let next ← scanner.step source offset character
      run source (offset + character.utf8Size) rest next

def ranges? (source : List Char) (stop : Nat) (scanner : Scanner) :
    Checked (List TermRange) :=
  if scanner.quoting ≠ .plain then
    throw (.error (Term.Fault.unterminatedQuote.error source))
  else if scanner.depth ≠ 0 then
    throw (.error (Term.Fault.unbalancedParentheses.error source))
  else do
    let scanner ← scanner.finish source stop scanner.isGroup
    return scanner.ranges.reverse

end Scanner

def Offset.split (source : List Char) (span : Span) : Checked (List TermRange) := do
  let text ← slice source span
  let scanner ← Scanner.run source span.start text ⟨[], none, false, 0, .plain⟩
  scanner.ranges? source span.stop

/-! ## Ranges of terms -/

namespace TermRange

theorem classify_word {source word : List Char} {start stop : Nat}
    (covers : Span.Covers ⟨start, stop⟩ source word) :
    classify source ⟨start, stop⟩ false =
      .ok (Term.range ⟨Term.wordKind word, start, word⟩) := by
  have isStop : stop = start + Text.byteSize word := by
    rcases covers with ⟨_, _, _, rfl, isStop⟩
    exact isStop
  rw [classify, if_neg Bool.false_ne_true, Offset.slice_eq covers, Term.range]
  split
  · rename_i isGroup
    exact absurd isGroup (Term.wordKind_ne_group word)
  · rw [isStop]
    rfl

theorem classify_group {source inner : List Char} {start stop : Nat}
    (isStop : stop = start + Text.byteSize (Nesting.parenthesize inner)) :
    classify source ⟨start, stop⟩ true =
      .ok (Term.range ⟨.group, start, Nesting.parenthesize inner⟩) := by
  have positive : 1 ≤ stop := by
    rw [isStop, Nesting.parenthesize, List.cons_append, Text.byteSize]
    have opened : 1 ≤ '('.utf8Size := Char.utf8Size_pos _
    omega
  rw [classify, if_pos rfl, Offset.minus_eq positive, isStop]
  rfl

end TermRange

namespace Scanner

open Nesting (outside parenthesize)
open Term (EndsBefore Splitter)
open Term.Splitter (between insideGroup insideWord)

/-! ## The states of a scanner

A scanner is the image of a splitter. The equations say what a character does to it in
the states in which splitters are. -/

/-- What a scanner keeps of a splitter. If no term has begun, `isGroup` is about
the last one. -/
def image (isGroup : Bool) (splitter : Splitter) : Scanner :=
  ⟨splitter.terms.map Term.range, splitter.draft.map (·.start),
    (splitter.draft.map (·.isGroup)).getD isGroup, splitter.nesting.depth,
    splitter.nesting.quoting⟩

variable {source : List Char} {done : List Term} {isGroup : Bool} {start offset : Nat}
  {inner word : List Char} {nesting next : Nesting} {character : Char}

theorem step_open {scanner : Scanner} (plain : scanner.quoting = .plain) :
    scanner.step source offset '(' = scanner.finishKeyword source offset >>= fun kept =>
      .ok { kept.begin offset true with depth := kept.depth + 1 } := by
  have solid : isBlank '(' = false := by decide
  rw [step, plain]
  simp only [solid, Bool.false_eq_true, if_false, if_true]
  rfl

theorem step_between_of_blank (blank : isBlank character = true) :
    (image isGroup (between done offset)).step source offset character =
      .ok (image isGroup (between done (offset + character.utf8Size))) := by
  simp [step, image, between, outside, blank, finish, pure, Except.pure]

theorem step_between_open :
    (image isGroup (between done offset)).step source offset '(' =
      .ok (image isGroup (insideGroup done offset [] outside)) := by
  rw [step_open rfl]
  rfl

def unbalanced (source : List Char) : Interrupt :=
  .error (Term.Fault.unbalancedParentheses.error source)

theorem step_between_of_solid (solid : isBlank character = false)
    (noGroup : character ≠ '(') :
    (image isGroup (between done offset)).step source offset character =
      match outside.step? character with
      | none => .error (unbalanced source)
      | some next => .ok (image isGroup (insideWord done offset [character] next)) := by
  by_cases isClose : character = ')'
  · subst isClose
    rfl
  · have stepped : outside.step? character = some ⟨0, Quoting.plain.step character⟩ := by
      simp [Nesting.step?, outside, noGroup, isClose]
    rw [stepped]
    simp [step, image, between, outside, solid, noGroup, isClose, begin, insideWord, pure,
      Except.pure]

theorem step_insideGroup (stepped : nesting.step? character = some next) :
    (image isGroup (insideGroup done start inner nesting)).step source offset character =
      .ok (image isGroup (insideGroup done start (inner ++ [character]) next)) := by
  cases Nesting.steps_of_step? stepped with
  | opens depth =>
      rw [step_open rfl]
      rfl
  | closes depth =>
      have solid : isBlank ')' = false := by decide
      simp [step, image, insideGroup, Nesting.deeper, solid, Offset.minus_add, pure,
        Except.pure, bind, Except.bind]
  | plain depth noOpen noClose =>
      by_cases blank : isBlank character = true
      · have notQuote : character ≠ '"' := by
          rintro rfl
          simp [isBlank] at blank
        simp [step, image, insideGroup, Nesting.deeper, blank, Quoting.step, notQuote,
          pure, Except.pure]
      · simp [step, image, insideGroup, Nesting.deeper, blank, noOpen, noClose, begin,
          pure, Except.pure]
  | quoted => rfl
  | escaped => rfl

theorem step_insideGroup_close
    (isOffset : offset = start + Text.byteSize ('(' :: inner)) :
    (image isGroup (insideGroup done start inner outside)).step source offset ')' =
      .ok (image true (between (⟨.group, start, parenthesize inner⟩ :: done)
        (start + Text.byteSize (parenthesize inner)))) := by
  have isStop : offset + 1 = start + Text.byteSize (parenthesize inner) := by
    rw [isOffset, parenthesize, Text.byteSize_append]
    rfl
  have solid : isBlank ')' = false := by decide
  have group := @TermRange.classify_group source inner start _ isStop
  simp [step, image, insideGroup, Nesting.deeper, outside, solid, Offset.minus_add 0 1,
    finish, group, between, pure, Except.pure, bind, Except.bind]

theorem step_insideWord_of_ends (covers : Span.Covers ⟨start, offset⟩ source word)
    (ends : EndsBefore word character) :
    (image isGroup (insideWord done start word outside)).step source offset character =
      (image false (between (⟨Term.wordKind word, start, word⟩ :: done) offset)).step
        source offset character := by
  have ended := TermRange.classify_word covers
  rcases ends with blank | ⟨rfl, keyword⟩
  · simp [step, image, insideWord, outside, blank, finish, ended, between, pure,
      Except.pure, bind, Except.bind]
  · have solid : isBlank '(' = false := by decide
    simp [step, image, insideWord, outside, solid, finishKeyword, Offset.slice_eq covers,
      keyword, finish, ended, between, pure, Except.pure, bind, Except.bind]

theorem step_insideWord_of_not_ends (covers : Span.Covers ⟨start, offset⟩ source word)
    (goesOn : nesting = outside → ¬ EndsBefore word character) :
    (image isGroup (insideWord done start word nesting)).step source offset character =
      match nesting.step? character with
      | none => .error (unbalanced source)
      | some next =>
          .ok (image isGroup (insideWord done start (word ++ [character]) next)) := by
  rcases nesting with ⟨depth, quoting⟩
  cases quoting with
  | plain =>
      by_cases isOpen : character = '('
      · subst isOpen
        have solid : isBlank '(' = false := by decide
        have kept :
            (image isGroup
              (insideWord done start word ⟨depth, .plain⟩)).finishKeyword source offset =
              .ok (image isGroup (insideWord done start word ⟨depth, .plain⟩)) := by
          cases depth with
          | zero =>
              have noKeyword : (Term.keyword? word).isSome = false := by
                simpa [EndsBefore, solid] using goesOn rfl
              simp [finishKeyword, image, insideWord, Offset.slice_eq covers, noKeyword,
                pure, Except.pure, bind, Except.bind]
          | succ depth => rfl
        rw [step_open rfl, kept]
        rfl
      by_cases isClose : character = ')'
      · subst isClose
        have solid : isBlank ')' = false := by decide
        cases depth with
        | zero => rfl
        | succ depth =>
            simp [step, image, insideWord, solid, Offset.minus_add, Nesting.step?, pure,
              Except.pure, bind, Except.bind]
      · have inside : (⟨depth, .plain⟩ : Nesting).step? character =
            some ⟨depth, Quoting.plain.step character⟩ := by
          simp [Nesting.step?, isOpen, isClose]
        rw [inside]
        by_cases blank : isBlank character = true
        · have deep : depth ≠ 0 := by
            rintro rfl
            exact goesOn rfl (.inl blank)
          have notQuote : character ≠ '"' := by
            rintro rfl
            simp [isBlank] at blank
          simp [step, image, insideWord, blank, deep, Quoting.step, notQuote, pure,
            Except.pure]
        · simp [step, image, insideWord, blank, isOpen, isClose, begin, pure, Except.pure]
  | quoted => rfl
  | escaped => rfl

/-! ## What a scanner comes to -/

def outcome (source : List Char) (stop offset : Nat) (text : List Char)
    (scanner : Scanner) :
    Checked (List TermRange) :=
  scanner.run source offset text >>= ranges? source stop

theorem outcome_cons {scanner next : Scanner} {stop : Nat} {rest : List Char}
    (stepped : scanner.step source offset character = .ok next) :
    scanner.outcome source stop offset (character :: rest) =
      next.outcome source stop (offset + character.utf8Size) rest := by
  rw [outcome, run, stepped]
  rfl

theorem outcome_cons_of_error {scanner : Scanner} {stop : Nat} {rest : List Char}
    {interrupt : Interrupt}
    (stepped : scanner.step source offset character = .error interrupt) :
    scanner.outcome source stop offset (character :: rest) = .error interrupt := by
  rw [outcome, run, stepped]
  rfl

def settle (source : List Char) : Except Term.Fault (List Term) → Checked (List TermRange)
  | .ok terms => .ok (terms.map Term.range)
  | .error fault => .error (.error (fault.error source))

/-- The splitter has read the text `pending`, which starts at `start`, since its last
finished term. -/
inductive Pending : Splitter → Nat → List Char → Prop
  | between {done : List Term} {offset : Nat} : Pending (between done offset) offset []
  | insideGroup {done : List Term} {start : Nat} {inner : List Char} {nesting : Nesting} :
      Pending (insideGroup done start inner nesting) start ('(' :: inner)
  | insideWord {done : List Term} {start : Nat} {word : List Char} {nesting : Nesting} :
      Pending (insideWord done start word nesting) start word

section Outcomes

variable {stop : Nat} {text after : List Char}

/-- From every state, the rest `text` of the part that ends at `stop` leads a scanner to
the ranges of what it leads a splitter to. -/
private def Follows (source : List Char) (stop : Nat) (text after : List Char) : Prop :=
  ∀ {splitter : Splitter} {before pending : List Char} (isGroup : Bool),
    Pending splitter (Text.byteSize before) pending →
    source = before ++ pending ++ text ++ after →
    stop = Text.byteSize (before ++ pending ++ text) →
    (image isGroup splitter).outcome source stop
      (Text.byteSize (before ++ pending)) text = settle source (splitter.outcome text)

private theorem covers_pending {before pending rest : List Char}
    (equal : source = before ++ pending ++ rest ++ after) :
    Span.Covers ⟨Text.byteSize before, Text.byteSize (before ++ pending)⟩ source
      pending :=
  ⟨before, rest ++ after, by simp [equal], rfl, Text.byteSize_append before pending⟩

private theorem ranges?_of_open {splitter : Splitter}
    (notOutside : splitter.nesting ≠ outside) (isGroup : Bool) :
    (image isGroup splitter).ranges? source stop = settle source splitter.terms? := by
  rw [Splitter.terms?, ranges?]
  by_cases plain : splitter.nesting.quoting = .plain
  · have deep : splitter.nesting.depth ≠ 0 := fun flat =>
      notOutside (by rw [outside, ← plain, ← flat])
    rw [if_neg (not_not_intro plain), if_pos deep]
    exact (if_neg (not_not_intro plain)).trans (if_pos deep)
  · rw [if_pos plain]
    exact if_pos plain

private theorem follows_nil : Follows source stop [] after := by
  intro splitter before pending isGroup isPending equal isStop
  change (image isGroup splitter).ranges? source stop = settle source splitter.terms?
  rw [List.append_nil] at isStop
  cases isPending with
  | between =>
      rw [ranges?, Splitter.terms?]
      simp [image, between, outside, finish, settle, Splitter.finish, pure, Except.pure,
        bind, Except.bind]
  | insideGroup => exact ranges?_of_open (Nesting.deeper_ne_outside _) isGroup
  | @insideWord done _ word nesting =>
      by_cases isOutside : nesting = outside
      · subst isOutside
        have ended := TermRange.classify_word (covers_pending equal)
        rw [← isStop] at ended
        rw [ranges?, Splitter.terms?]
        simp [image, insideWord, outside, finish, ended, settle, Splitter.finish,
          Term.Draft.finish, Term.Draft.text, pure, Except.pure, bind, Except.bind]
      · exact ranges?_of_open isOutside isGroup

private theorem follows_between {rest before : List Char}
    (follows : Follows source stop rest after) (isGroup : Bool)
    (equal : source = before ++ character :: rest ++ after)
    (isStop : stop = Text.byteSize (before ++ character :: rest)) :
    (image isGroup (between done (Text.byteSize before))).outcome source stop
        (Text.byteSize before) (character :: rest) =
      settle source
        ((between done (Text.byteSize before)).outcome (character :: rest)) := by
  have size : Text.byteSize before + character.utf8Size =
      Text.byteSize (before ++ [character]) := by
    rw [Text.byteSize_append]
    rfl
  by_cases blank : isBlank character = true
  · rw [outcome_cons (step_between_of_blank blank),
      Splitter.outcome_cons (Splitter.step?_between_of_blank blank), size]
    have later := @follows (between done (Text.byteSize (before ++ [character])))
      (before ++ [character]) [] isGroup .between (by simp [equal]) (by simp [isStop])
    rwa [List.append_nil] at later
  by_cases isOpen : character = '('
  · subst isOpen
    rw [outcome_cons step_between_open, Splitter.outcome_cons Splitter.step?_between_open,
      size]
    exact follows isGroup .insideGroup (by simp [equal]) (by simp [isStop])
  have solid : isBlank character = false := by simpa using blank
  have stepped : (image isGroup (between done (Text.byteSize before))).step source
      (Text.byteSize before) character = _ := step_between_of_solid solid isOpen
  cases inside : outside.step? character with
  | none =>
      rw [inside] at stepped
      rw [outcome_cons_of_error stepped, Splitter.outcome,
        Splitter.step?_between_of_solid solid isOpen, inside]
      rfl
  | some next =>
      rw [inside] at stepped
      have taken : (between done (Text.byteSize before)).step? character =
          some (insideWord done (Text.byteSize before) [character] next) := by
        rw [Splitter.step?_between_of_solid solid isOpen, inside]
        rfl
      rw [outcome_cons stepped, Splitter.outcome_cons taken, size]
      exact follows isGroup .insideWord (by simp [equal]) (by simp [isStop])

private theorem follows_insideGroup {rest before : List Char}
    (follows : Follows source stop rest after) (isGroup : Bool)
    (equal : source = before ++ '(' :: inner ++ character :: rest ++ after)
    (isStop : stop = Text.byteSize (before ++ '(' :: inner ++ character :: rest)) :
    (image isGroup (insideGroup done (Text.byteSize before) inner nesting)).outcome
      source stop (Text.byteSize (before ++ '(' :: inner)) (character :: rest) =
      settle source
        ((insideGroup done (Text.byteSize before) inner nesting).outcome
          (character :: rest)) := by
  cases stepped : nesting.step? character with
  | none =>
      -- What `inner` cannot take is the parenthesis that closes the group.
      rcases Nesting.step?_eq_none_iff.mp stepped with ⟨rfl, rfl⟩
      have closed : before ++ parenthesize inner = before ++ '(' :: inner ++ [')'] := by
        simp [parenthesize]
      have size : Text.byteSize (before ++ '(' :: inner) + ')'.utf8Size =
          Text.byteSize (before ++ parenthesize inner) := by
        rw [closed, Text.byteSize_append _ [')']]
        rfl
      rw [outcome_cons (step_insideGroup_close (Text.byteSize_append _ _)),
        Splitter.outcome_cons Splitter.step?_insideGroup_close, size,
        ← Text.byteSize_append]
      have later :=
        @follows (between (⟨.group, Text.byteSize before, parenthesize inner⟩ :: done)
        (Text.byteSize (before ++ parenthesize inner))) (before ++
          parenthesize inner) [] true
        .between (by simp [equal, closed]) (by simp [isStop, closed])
      rwa [List.append_nil] at later
  | some next =>
      have size : Text.byteSize (before ++ '(' :: inner) + character.utf8Size =
          Text.byteSize (before ++ '(' :: (inner ++ [character])) := by
        rw [← List.cons_append, ← List.append_assoc, Text.byteSize_append _ [character]]
        rfl
      rw [outcome_cons (step_insideGroup stepped),
        Splitter.outcome_cons (Splitter.step?_insideGroup stepped), size]
      exact follows isGroup .insideGroup (by simp [equal]) (by simp [isStop])

private theorem follows_insideWord {rest before : List Char}
    (follows : Follows source stop rest after) (isGroup : Bool)
    (equal : source = before ++ word ++ character :: rest ++ after)
    (isStop : stop = Text.byteSize (before ++ word ++ character :: rest)) :
    (image isGroup (insideWord done (Text.byteSize before) word nesting)).outcome
      source stop (Text.byteSize (before ++ word)) (character :: rest) =
      settle source
        ((insideWord done (Text.byteSize before) word nesting).outcome
          (character :: rest)) := by
  have covers := covers_pending equal
  by_cases ends : nesting = outside ∧ EndsBefore word character
  · -- The word ends here, and the character is read as one between two terms.
    rcases ends with ⟨rfl, ends⟩
    have endsHere : ∀ next ∈ (character :: rest).head?, EndsBefore word next := by
      intro next isHead
      cases isHead
      exact ends
    have same : (image isGroup
        (insideWord done (Text.byteSize before) word outside)).outcome source
          stop (Text.byteSize (before ++ word)) (character :: rest) =
        (image false (between (⟨Term.wordKind word, Text.byteSize before, word⟩ :: done)
          (Text.byteSize (before ++ word)))).outcome source stop
          (Text.byteSize (before ++ word)) (character :: rest) := by
      rw [outcome, run, step_insideWord_of_ends covers ends]
      rfl
    rw [same, Splitter.outcome_insideWord_of_ends endsHere, ← Text.byteSize_append]
    exact follows_between follows false equal isStop
  have stepped :
      (image isGroup (insideWord done (Text.byteSize before) word nesting)).step source
      (Text.byteSize (before ++ word)) character = _ :=
    step_insideWord_of_not_ends covers (not_and.mp ends)
  have stepped' :
      (insideWord done (Text.byteSize before) word nesting).step? character = _ :=
    Splitter.step?_insideWord_of_not_ends (not_and.mp ends)
  cases inside : nesting.step? character with
  | none =>
      rw [inside] at stepped stepped'
      rw [outcome_cons_of_error stepped, Splitter.outcome, stepped']
      rfl
  | some next =>
      rw [inside] at stepped stepped'
      have size : Text.byteSize (before ++ word) + character.utf8Size =
          Text.byteSize (before ++ (word ++ [character])) := by
        rw [← List.append_assoc, Text.byteSize_append _ [character]]
        rfl
      rw [outcome_cons stepped, Splitter.outcome_cons stepped', size]
      exact follows isGroup .insideWord (by simp [equal]) (by simp [isStop])

private theorem follows (text : List Char) : Follows source stop text after := by
  induction text with
  | nil => exact follows_nil
  | cons character rest induction =>
      intro splitter before pending isGroup isPending equal isStop
      cases isPending with
      | between =>
          rw [List.append_nil] at equal isStop ⊢
          exact follows_between induction isGroup equal isStop
      | insideGroup => exact follows_insideGroup induction isGroup equal isStop
      | insideWord => exact follows_insideWord induction isGroup equal isStop

end Outcomes

end Scanner

/-- The ranges of a part of an expression are those of its terms, and no slice or
difference on the way is a trap. -/
theorem Offset.split_eq {source text : List Char} {span : Span}
    (covers : span.Covers source text) :
    split source span = Scanner.settle source (Term.split span.start text) := by
  rcases span with ⟨start, stop⟩
  rw [split, slice_eq covers, Term.split_eq_outcome]
  rcases covers with ⟨before, after, equal, isStart, isStop⟩
  simp only at isStart isStop
  subst isStart
  have follows :=
    @Scanner.follows source stop after text (.between [] (Text.byteSize before)) before
    [] false .between (by simp [equal]) (by simp [isStop])
  rwa [List.append_nil] at follows

end Criteria
