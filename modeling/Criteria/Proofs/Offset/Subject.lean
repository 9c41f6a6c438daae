import Criteria.Proofs.Condition.Decomposition
import Criteria.Proofs.Offset.Basic
import Criteria.Proofs.Text.Quoted

/-!
Reading the subject of a condition at byte offsets.

Searches come to the offset of a character, and what lies between two such offsets is a
slice. The character that a search has stopped at is one byte long where the next slice
starts behind it. In the arguments of a call no parenthesis is closed that was not
opened there, since they end at the first such one.
-/

namespace Criteria.Offset

/-! ## Quoted texts -/

def closingQuote? (offset : Nat) (quoting : Quoting) : List Char → Option Nat
  | [] => none
  | character :: rest =>
      match quoting.step character with
      | .plain => some (offset + 1)
      | next => closingQuote? (offset + character.utf8Size) next rest

def quotedLength? : List Char → Option Nat
  | [] => none
  | first :: rest => closingQuote? first.utf8Size .quoted rest

theorem closingQuote?_eq {quoting : Quoting} (isOpen : quoting ≠ .plain) (offset : Nat)
    (text : List Char) :
    closingQuote? offset quoting text =
      (quoting.closing? text).map fun read => offset + Text.byteSize read.1 := by
  induction text generalizing quoting offset with
  | nil => rfl
  | cons character rest induction =>
      rw [closingQuote?, Quoting.closing?]
      cases stepped : quoting.step character with
      | plain =>
          rw [Quoting.eq_quote_of_step isOpen stepped]
          rfl
      | quoted =>
          simp only [@induction .quoted (by decide), Option.map_map, Function.comp_def,
            Text.byteSize, Nat.add_assoc]
      | escaped =>
          simp only [@induction .escaped (by decide), Option.map_map, Function.comp_def,
            Text.byteSize, Nat.add_assoc]

theorem quotedLength?_eq {text : List Char} (isQuoted : text.head? = some '"') :
    quotedLength? text = (Text.quotedPart? text).map fun read =>
      Text.byteSize read.1 := by
  cases text with
  | nil => cases isQuoted
  | cons first rest =>
      cases isQuoted
      rw [quotedLength?, @closingQuote?_eq .quoted (by decide), Text.quotedPart?,
        Option.map_map]
      rfl

/-! ## Parentheses -/

/-- The offset of the parenthesis that closes the first one, of which `depth` and
`quoting` are read and the rest stands at `offset`. -/
def closingFrom? (offset depth : Nat) (quoting : Quoting) :
    List Char → Checked (Option Nat)
  | [] => return none
  | character :: rest =>
      let next := offset + character.utf8Size
      match quoting, character with
      | .plain, '(' => closingFrom? next (depth + 1) .plain rest
      | .plain, ')' => do
          let depth ← minus depth 1
          if depth = 0 then return some offset else closingFrom? next depth .plain rest
      | quoting, _ => closingFrom? next depth (quoting.step character) rest

def closing? (text : List Char) (start : Nat) : Checked (Option Nat) := do
  let rest ← sliceFrom text start
  closingFrom? start 0 .plain rest

theorem closingFrom?_cons {nesting next : Nesting} {character : Char}
    (stepped : nesting.step? character = some next) (offset : Nat) (rest : List Char) :
    closingFrom? offset (nesting.depth + 1) nesting.quoting (character :: rest) =
      closingFrom? (offset + character.utf8Size) (next.depth + 1) next.quoting rest := by
  cases Nesting.steps_of_step? stepped with
  | plain depth noOpen noClose => simp [closingFrom?, noOpen, noClose]
  | _ => rfl

theorem closingFrom?_eq (nesting : Nesting) (offset : Nat) (text : List Char) :
    closingFrom? offset (nesting.depth + 1) nesting.quoting text =
      .ok ((nesting.untilClosing? text).map fun read =>
        offset + Text.byteSize read.1) := by
  induction text generalizing nesting offset with
  | nil => rfl
  | cons character rest induction =>
      rw [Nesting.untilClosing?]
      cases stepped : nesting.step? character with
      | none =>
          rcases Nesting.step?_eq_none_iff.mp stepped with ⟨rfl, rfl⟩
          rfl
      | some next =>
          rw [closingFrom?_cons stepped, induction next]
          simp only [Option.map_map, Function.comp_def, Text.byteSize, Nat.add_assoc]

theorem closing?_eq (before inside : List Char) :
    closing? (before ++ '(' :: inside) (Text.byteSize before) =
      .ok ((Nesting.outside.untilClosing? inside).map fun read =>
        Text.byteSize before + 1 + Text.byteSize read.1) := by
  rw [closing?, sliceFrom_append]
  exact closingFrom?_eq .outside (Text.byteSize before + 1) inside

/-! ## Subjects -/

def readSubject (text : List Char) : Checked (Option (Subject × Nat)) :=
  if text.head? = some '"' then
    match quotedLength? text with
    | none => return none
    | some stop => do
        let part ← slice text ⟨0, stop⟩
        return some (.quoted part, stop)
  else
    let stop := find (!Subject.isNameCharacter ·) text
    if stop = 0 then return none
    else do
      let name ← slice text ⟨0, stop⟩
      let start ← findFrom (!isBlank ·) text stop
      let rest ← sliceFrom text start
      if rest.head? = some '(' then
        match ← closing? text start with
        | none => return none
        | some close => do
            let arguments ← slice text ⟨start + 1, close⟩
            return some (.call name arguments, close + 1)
      else return some (.path name, stop)

theorem slice_first (part after : List Char) :
    slice (part ++ after) ⟨0, Text.byteSize part⟩ = .ok part :=
  slice_eq ⟨[], after, rfl, rfl, (Nat.zero_add _).symm⟩

section Calls

variable (name blanks inner after : List Char)

theorem covers_arguments :
    Span.Covers ⟨Text.byteSize name + Text.byteSize blanks + 1,
      Text.byteSize name + Text.byteSize blanks + 1 + Text.byteSize inner⟩
      (name ++ (blanks ++ '(' :: (inner ++ ')' :: after))) inner := by
  have start : Text.byteSize (name ++ blanks ++ ['(']) =
      Text.byteSize name + Text.byteSize blanks + 1 := by
    simp only [Text.byteSize_append]
    rfl
  exact ⟨name ++ blanks ++ ['('], ')' :: after, by simp, start.symm, by rw [start]⟩

theorem byteSize_call :
    Text.byteSize (name ++ blanks ++ '(' :: inner ++ [')']) =
      Text.byteSize name + Text.byteSize blanks + 1 + Text.byteSize inner + 1 := by
  have opened : Text.byteSize ('(' :: inner) = 1 + Text.byteSize inner := rfl
  have ended : Text.byteSize [')'] = 1 := rfl
  simp only [Text.byteSize_append, opened, ended]
  omega

variable {inner after} in
theorem slice_arguments {inside : List Char}
    (found : Nesting.outside.untilClosing? inside = some (inner, after)) :
    slice (name ++ (blanks ++ '(' :: inside))
      ⟨Text.byteSize name + Text.byteSize blanks + 1,
        Text.byteSize name + Text.byteSize blanks + 1 + Text.byteSize inner⟩ =
      .ok inner := by
  rw [(Nesting.untilClosing?_split found).1]
  exact slice_eq (covers_arguments name blanks inner after)

end Calls

theorem readSubject_of_quote {text : List Char} (isQuoted : text.head? = some '"') :
    readSubject text =
      .ok ((Subject.read? text).map fun read => (read.1, Text.byteSize read.2.1)) := by
  rw [readSubject, Subject.read?, if_pos isQuoted, if_pos isQuoted,
    quotedLength?_eq isQuoted]
  cases found : Text.quotedPart? text with
  | none => rfl
  | some read =>
      rcases read with ⟨part, after⟩
      rw [Text.quotedPart?_eq found]
      change slice _ ⟨0, Text.byteSize part⟩ >>= _ = _
      rw [slice_first]
      rfl

theorem readSubject_eq (text : List Char) :
    readSubject text =
      .ok ((Subject.read? text).map fun read => (read.1, Text.byteSize read.2.1)) := by
  by_cases isQuoted : text.head? = some '"'
  · exact readSubject_of_quote isQuoted
  rcases nameSpan : text.span Subject.isNameCharacter with ⟨name, afterName⟩
  rcases Text.span_eq_iff.mp nameSpan with ⟨rfl, named, stops⟩
  have found : find (!Subject.isNameCharacter ·) (name ++ afterName) =
      Text.byteSize name :=
    find_append (by simpa using named) (by simpa using stops)
  rw [readSubject, Subject.read?, if_neg isQuoted, if_neg isQuoted]
  simp only [found, nameSpan]
  by_cases empty : name = []
  · subst empty
    rfl
  have positive := Text.byteSize_pos empty
  rcases blankSpan : afterName.span isBlank with ⟨blanks, afterBlanks⟩
  rcases Text.span_eq_iff.mp blankSpan with ⟨rfl, blank, solid⟩
  have skipped :
      findFrom (!isBlank ·) (name ++ (blanks ++ afterBlanks)) (Text.byteSize name) =
        .ok (Text.byteSize name + Text.byteSize blanks) :=
    findFrom_append (by simpa using blank) (by simpa using solid)
  have rest : sliceFrom (name ++ (blanks ++ afterBlanks))
      (Text.byteSize name + Text.byteSize blanks) = .ok afterBlanks := by
    rw [← Text.byteSize_append, ← List.append_assoc, sliceFrom_append]
  rw [if_neg (by omega), if_neg (by simpa using empty)]
  simp only [slice_first, skipped, rest, ok_bind]
  by_cases isCall : afterBlanks.head? = some '('
  · rcases List.head?_eq_some_iff.mp isCall with ⟨inside, rfl⟩
    have closed := closing?_eq (name ++ blanks) inside
    rw [List.append_assoc, Text.byteSize_append] at closed
    rw [if_pos isCall, closed]
    simp only [ok_bind]
    cases isClosed : Nesting.outside.untilClosing? inside with
    | none => rfl
    | some read =>
        rcases read with ⟨inner, after⟩
        simp only [Option.map_some, slice_arguments name blanks isClosed, ok_bind,
          byteSize_call]
        rfl
  · rw [if_neg isCall]
    split
    · exact absurd rfl isCall
    · rfl

/-! ## Arguments -/

/-- The arguments from the one that starts at `start` on, after the arguments `done`,
the last one first. Of the text, the characters from `offset` on are left. -/
def argumentsFrom (text : List Char) (done : List (List Char)) (start offset depth : Nat)
    (quoting : Quoting) : List Char → Checked (List (List Char))
  | [] => do
      let last ← sliceFrom text start
      return (Text.trim last :: done).reverse
  | character :: rest =>
      let next := offset + character.utf8Size
      match quoting, character with
      | .plain, '(' => argumentsFrom text done start next (depth + 1) .plain rest
      | .plain, ')' => do
          let depth ← minus depth 1
          argumentsFrom text done start next depth .plain rest
      | .plain, ',' =>
          if depth = 0 then do
            let argument ← slice text ⟨start, offset⟩
            argumentsFrom text (Text.trim argument :: done)
              (offset + 1) next depth .plain rest
          else argumentsFrom text done start next depth .plain rest
      | quoting, _ =>
          argumentsFrom text done start next depth (quoting.step character) rest

def arguments? (text : List Char) : Checked (Option (List (List Char))) :=
  if (Text.trim text).isEmpty then return some []
  else do
    let arguments ← argumentsFrom text [] 0 0 0 .plain text
    return if arguments.any (·.isEmpty) then none else some arguments

section Arguments

variable {text : List Char} {done : List (List Char)} {start offset : Nat}
  {nesting next : Nesting} {character : Char} {rest : List Char}

theorem argumentsFrom_cons (stepped : nesting.step? character = some next)
    (inside : ¬ (character = ',' ∧ nesting = Nesting.outside)) :
    argumentsFrom text done start offset nesting.depth nesting.quoting
      (character :: rest) =
      argumentsFrom text done start (offset + character.utf8Size) next.depth next.quoting
        rest := by
  cases Nesting.steps_of_step? stepped with
  | plain depth noOpen noClose =>
      by_cases isComma : character = ','
      · subst isComma
        have deep : depth ≠ 0 := by
          rintro rfl
          exact inside ⟨rfl, rfl⟩
        simp [argumentsFrom, deep, Quoting.step]
      · simp [argumentsFrom, noOpen, noClose, isComma]
  | _ => rfl

theorem modifyHead_nil_append (pieces : List (List Char)) :
    pieces.modifyHead ([] ++ ·) = pieces := by
  cases pieces <;> rfl

theorem argumentsFrom_eq {last : Nesting} {before piece : List Char}
    (scanned : nesting.scan? rest = some last) (equal : text = before ++ piece ++ rest) :
    argumentsFrom text done (Text.byteSize before) (Text.byteSize (before ++ piece))
        nesting.depth nesting.quoting rest =
      .ok (done.reverse ++
        ((Nesting.splitOutside ',' nesting rest).modifyHead (piece ++ ·)).map
          Text.trim) := by
  induction rest generalizing nesting before piece done with
  | nil =>
      rw [List.append_nil] at equal
      rw [argumentsFrom, equal, sliceFrom_append]
      simp [Nesting.splitOutside]
  | cons character rest induction =>
      rw [Nesting.scan?_cons, Option.bind_eq_some_iff] at scanned
      rcases scanned with ⟨next, stepped, scanned⟩
      by_cases isCut : character = ',' ∧ nesting = Nesting.outside
      · rcases isCut with ⟨rfl, rfl⟩
        cases stepped
        have covers :
            Span.Covers ⟨Text.byteSize before, Text.byteSize (before ++ piece)⟩ text
            piece := ⟨before, ',' :: rest, equal, rfl, Text.byteSize_append before piece⟩
        have size : Text.byteSize (before ++ piece) + 1 =
            Text.byteSize (before ++ piece ++ [',']) :=
          (Text.byteSize_append (before ++ piece) [',']).symm
        have later :=
          @induction (Text.trim piece :: done) .outside (before ++ piece ++ [',']) []
            scanned (by simp [equal])
        change (slice text _ >>= fun argument =>
          argumentsFrom text (Text.trim argument :: done)
            (Text.byteSize (before ++ piece) + 1) (Text.byteSize (before ++ piece) + 1) 0
            .plain rest) = _
        rw [slice_eq covers, ok_bind, size]
        rw [List.append_nil, modifyHead_nil_append] at later
        refine later.trans ?_
        rw [Nesting.splitOutside, if_pos ⟨rfl, rfl⟩, List.modifyHead_cons]
        simp
      · have size : Text.byteSize (before ++ piece) + character.utf8Size =
            Text.byteSize (before ++ (piece ++ [character])) := by
          rw [← List.append_assoc, Text.byteSize_append _ [character]]
          rfl
        rw [argumentsFrom_cons stepped isCut, size, induction scanned (by simp [equal]),
          Nesting.splitOutside, if_neg isCut, stepped, Option.getD_some,
          List.modifyHead_modifyHead]
        simp only [List.append_assoc, List.singleton_append, Function.comp_def]

end Arguments

theorem arguments?_eq {text : List Char} (balanced : Nesting.Balanced text) :
    arguments? text = .ok (Subject.arguments? text) := by
  rw [arguments?, Subject.arguments?, Text.isEmpty_trim]
  cases blank : Text.allBlank text with
  | true => rfl
  | false =>
      have all := @argumentsFrom_eq text [] .outside text .outside [] [] balanced rfl
      rw [modifyHead_nil_append] at all
      change (argumentsFrom text [] 0 0 0 .plain text >>= _) = _
      exact (congrArg (· >>= _) all).trans (by rfl)

end Criteria.Offset
