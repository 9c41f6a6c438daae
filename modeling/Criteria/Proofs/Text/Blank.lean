import Mathlib.Data.List.Basic
import Mathlib.Data.List.TakeDrop
import Mathlib.Data.List.TakeWhile
import Criteria.Proofs.Text.Span

/-!
The first run of a text, what trimming leaves of it, and its pieces.

Each of these is fixed by the characters at its ends: a run, a word or a piece is as
long as it can be. So it is found in a larger text too, if what is added to its text
does not touch it.
-/

namespace Criteria.Text

/-! ## Runs at the start -/

theorem span_eq_iff {p : Char → Bool} {text run rest : List Char} :
    text.span p = (run, rest) ↔
      text = run ++ rest ∧ (∀ character ∈ run, p character = true) ∧
        ∀ next ∈ rest.head?, p next = false := by
  rw [List.span_eq_takeWhile_dropWhile, Prod.mk.injEq]
  constructor
  · rintro ⟨rfl, rfl⟩
    refine ⟨List.takeWhile_append_dropWhile.symm, fun _ => List.mem_takeWhile_imp, ?_⟩
    intro next isHead
    have stops := List.head?_dropWhile_not p text
    rw [Option.mem_def.mp isHead] at stops
    exact stops
  · rintro ⟨rfl, all, stops⟩
    rw [List.takeWhile_append_of_pos all, List.dropWhile_append_of_pos all]
    cases rest with
    | nil => simp
    | cons next others => simp [stops next rfl]

theorem span_append {p : Char → Bool} {text run rest : List Char}
    (spans : text.span p = (run, rest)) (ended : rest ≠ []) (more : List Char) :
    (text ++ more).span p = (run, rest ++ more) := by
  rw [span_eq_iff] at spans ⊢
  rcases spans with ⟨rfl, all, stops⟩
  refine ⟨List.append_assoc .., all, ?_⟩
  rw [List.head?_append_of_ne_nil _ ended]
  exact stops

/-! ## Trimming -/

theorem trimStart_eq_nil_iff {text : List Char} :
    trimStart text = [] ↔ allBlank text = true := by
  rw [trimStart, List.dropWhile_eq_nil_iff, allBlank, List.all_eq_true]

theorem trimStart_append_of_ne_nil {text : List Char} (nonempty : trimStart text ≠ [])
    (more : List Char) : trimStart (text ++ more) = trimStart text ++ more := by
  rw [trimStart, List.dropWhile_append]
  exact if_neg (mt List.isEmpty_iff.mp nonempty)

theorem trimStart_append {gap text : List Char} (blank : allBlank gap = true)
    (solid : ∀ character ∈ text.head?, isBlank character = false) :
    trimStart (gap ++ text) = text := by
  rw [trimStart, List.dropWhile_append_of_pos (List.all_eq_true.mp blank)]
  cases text with
  | nil => rfl
  | cons first others => exact List.dropWhile_cons_of_neg (by simp [solid first rfl])

theorem isBlank_or_mem_head? {gap text : List Char} {next : Char}
    (blank : allBlank gap = true) (isHead : next ∈ (gap ++ text).head?) :
    isBlank next = true ∨ next ∈ text.head? := by
  cases gap with
  | nil => exact .inr isHead
  | cons first others =>
      cases isHead
      rw [allBlank, List.all_cons, Bool.and_eq_true] at blank
      exact .inl blank.1

theorem trimEnd_append {text gap : List Char} (blank : allBlank gap = true)
    (solid : ∀ character ∈ text.getLast?, isBlank character = false) :
    trimEnd (text ++ gap) = text := by
  have blankReversed : allBlank gap.reverse = true := by
    rw [allBlank, List.all_reverse]
    exact blank
  have dropped : trimStart (gap.reverse ++ text.reverse) = text.reverse :=
    trimStart_append blankReversed (by simpa using solid)
  rw [trimStart] at dropped
  rw [trimEnd, List.reverse_append, dropped, List.reverse_reverse]

theorem trim_eq {before text after : List Char} (blankBefore : allBlank before = true)
    (blankAfter : allBlank after = true) (trimmed : IsTrimmed text) :
    trim (before ++ text ++ after) = text := by
  rw [trim, List.append_assoc, trimStart_append blankBefore,
    trimEnd_append blankAfter trimmed.last]
  rw [List.head?_append_of_ne_nil _ trimmed.nonempty]
  exact trimmed.head

theorem IsTrimmed.trim_eq {text : List Char} (trimmed : IsTrimmed text) :
    trim text = text := by
  have whole := Text.trim_eq List.all_nil List.all_nil trimmed
  rw [List.nil_append, List.append_nil] at whole
  exact whole

theorem exists_trimStart (text : List Char) :
    ∃ gap, text = gap ++ trimStart text ∧ allBlank gap = true ∧
      ∀ character ∈ (trimStart text).head?, isBlank character = false := by
  rcases span_eq_iff.mp (List.span_eq_takeWhile_dropWhile isBlank text) with
    ⟨equal, blank, solid⟩
  exact ⟨text.takeWhile isBlank, equal, List.all_eq_true.mpr blank, solid⟩

theorem exists_trimEnd (text : List Char) :
    ∃ gap, text = trimEnd text ++ gap ∧ allBlank gap = true ∧
      ∀ character ∈ (trimEnd text).getLast?, isBlank character = false := by
  rcases exists_trimStart text.reverse with ⟨gap, equal, blank, solid⟩
  refine ⟨gap.reverse, ?_, ?_, ?_⟩
  · rw [← List.reverse_inj, equal, List.reverse_append, List.reverse_reverse]
    exact congrArg (gap ++ ·) (List.reverse_reverse _).symm
  · rw [allBlank, List.all_reverse]
    exact blank
  · rw [trimEnd, List.getLast?_reverse]
    exact solid

theorem exists_trim (text : List Char) :
    ∃ before after, text = before ++ trim text ++ after ∧ allBlank before = true ∧
      allBlank after = true := by
  rcases exists_trimStart text with ⟨before, equal, blankBefore, _⟩
  rcases exists_trimEnd (trimStart text) with ⟨after, equal', blankAfter, _⟩
  refine ⟨before, after, ?_, blankBefore, blankAfter⟩
  rw [trim, List.append_assoc, ← equal', ← equal]

theorem isEmpty_trim (text : List Char) : (trim text).isEmpty = allBlank text := by
  cases blank : allBlank text with
  | true =>
      rw [trim, trimStart_eq_nil_iff.mpr blank]
      rfl
  | false =>
      rw [← Bool.not_eq_true] at blank ⊢
      intro isEmpty
      rcases exists_trim text with ⟨before, after, equal, blankBefore, blankAfter⟩
      rw [List.isEmpty_iff.mp isEmpty, List.append_nil] at equal
      rw [equal, allBlank, List.all_append, Bool.and_eq_true] at blank
      exact blank ⟨blankBefore, blankAfter⟩

theorem isTrimmed_trim {text : List Char} (nonempty : trim text ≠ []) :
    IsTrimmed (trim text) := by
  rcases exists_trimStart text with ⟨_, _, _, startSolid⟩
  rcases exists_trimEnd (trimStart text) with ⟨after, equal, _, endSolid⟩
  refine ⟨nonempty, ?_, endSolid⟩
  have sameHead : (trimStart text).head? = (trim text).head? := by
    rw [equal]
    exact List.head?_append_of_ne_nil _ nonempty
  rw [← sameHead]
  exact startSolid

theorem allBlank_append {left right : List Char} (blank : allBlank left = true)
    (blank' : allBlank right = true) : allBlank (left ++ right) = true := by
  rw [allBlank, List.all_append, Bool.and_eq_true]
  exact ⟨blank, blank'⟩

theorem trim_between {before after : List Char} (blankBefore : allBlank before = true)
    (blankAfter : allBlank after = true) (text : List Char) :
    trim (before ++ text ++ after) = trim text := by
  rcases exists_trim text with ⟨gap, gap', equal, blank, blank'⟩
  by_cases nothing : trim text = []
  · rw [nothing, List.append_nil] at equal
    have allBlank :=
      allBlank_append (allBlank_append blankBefore (allBlank_append blank blank'))
      blankAfter
    rw [← equal, ← isEmpty_trim, List.isEmpty_iff] at allBlank
    rw [allBlank, nothing]
  · have regrouped :
        before ++ text ++ after = (before ++ gap) ++ trim text ++ (gap' ++ after) :=
      calc before ++ text ++ after
        _ = before ++ (gap ++ trim text ++ gap') ++ after := by rw [← equal]
        _ = (before ++ gap) ++ trim text ++
          (gap' ++ after) := by simp only [List.append_assoc]
    rw [regrouped]
    exact trim_eq (allBlank_append blankBefore blank) (allBlank_append blank' blankAfter)
      (isTrimmed_trim nothing)

theorem trim_trimEnd (text : List Char) : trim (trimEnd text) = trim text := by
  rcases exists_trimEnd text with ⟨gap, equal, blank, _⟩
  have whole := trim_between List.all_nil blank (trimEnd text)
  rw [List.nil_append, ← equal] at whole
  exact whole.symm

theorem IsTrimmed.trim_append {text : List Char} (trimmed : IsTrimmed text)
    (after : List Char) :
    trim (text ++ after) = text ++ trimEnd after := by
  rcases exists_trimEnd after with ⟨gap, equal, blank, solid⟩
  have starts : ∀ character ∈ (text ++ after).head?, isBlank character = false := by
    rw [List.head?_append_of_ne_nil _ trimmed.nonempty]
    exact trimmed.head
  have started : trimStart (text ++ after) = text ++ after :=
    trimStart_append List.all_nil starts
  have regrouped : text ++ after = (text ++ trimEnd after) ++ gap := by
    rw [List.append_assoc, ← equal]
  rw [trim, started, regrouped]
  refine trimEnd_append blank fun character isLast => ?_
  by_cases nothing : trimEnd after = []
  · rw [nothing, List.append_nil] at isLast
    exact trimmed.last character isLast
  · rw [List.getLast?_append_of_ne_nil _ nothing] at isLast
    exact solid character isLast

/-! ## Pieces -/

section Pieces

theorem mem_pieces {α : Type} {pieces : List α → List (List α)} {isCut : α → Prop}
    {before piece after : List α} (starts : ∀ last ∈ before.getLast?, isCut last)
    (stops : ∀ next ∈ after.head?, isCut next)
    (append : ∀ left right item, isCut item →
      pieces (left ++ item :: right) = pieces left ++ pieces right)
    (single : pieces piece = [piece]) : piece ∈ pieces (before ++ piece ++ after) := by
  have isFirst : piece ∈ pieces (piece ++ after) := by
    cases after with
    | nil => rw [List.append_nil, single, List.mem_singleton]
    | cons next others =>
        rw [append _ _ _ (stops next rfl), single]
        exact List.mem_append_left _ (List.mem_singleton_self piece)
  rw [List.append_assoc]
  rcases List.eq_nil_or_concat before with rfl | ⟨others, last, rfl⟩
  · exact isFirst
  · rw [List.concat_eq_append] at starts ⊢
    rw [List.getLast?_concat] at starts
    rw [List.append_assoc, List.singleton_append, append _ _ _ (starts last rfl)]
    exact List.mem_append_right _ isFirst

variable {cut : Char → Bool}

theorem splitWhere_of_solid {text : List Char}
    (solid : ∀ character ∈ text, cut character = false) :
    splitWhere cut text = [text] := by
  induction text with
  | nil => rfl
  | cons character rest induction =>
      rw [List.forall_mem_cons] at solid
      rw [splitWhere, solid.1, induction solid.2]
      rfl

theorem splitWhere_append {left right : List Char} {character : Char}
    (isCut : cut character = true) :
    splitWhere cut (left ++ character :: right) = splitWhere cut left ++
      splitWhere cut right := by
  induction left with
  | nil => simp [splitWhere, isCut]
  | cons head rest induction =>
      rw [List.cons_append, splitWhere, splitWhere, induction]
      cases pieces : splitWhere cut rest with
      | nil => exact absurd pieces (splitWhere_ne_nil cut rest)
      | cons piece others => cases cut head <;> rfl

theorem mem_splitWhere {before piece after : List Char}
    (solid : ∀ character ∈ piece, cut character = false)
    (starts : ∀ character ∈ before.getLast?, cut character = true)
    (stops : ∀ character ∈ after.head?, cut character = true) :
    piece ∈ splitWhere cut (before ++ piece ++ after) :=
  mem_pieces starts stops (fun _ _ _ => splitWhere_append) (splitWhere_of_solid solid)

theorem exists_of_mem_splitWhere {text piece : List Char}
    (member : piece ∈ splitWhere cut text) :
    ∃ before after, text = before ++ piece ++ after ∧
      (∀ character ∈ before.getLast?, cut character = true) ∧
      ∀ character ∈ after.head?, cut character = true := by
  rcases spans : text.span (!cut ·) with ⟨run, stopped⟩
  rcases span_eq_iff.mp spans with ⟨equal, solid, stops⟩
  have isRun : splitWhere cut run = [run] := splitWhere_of_solid (by simpa using solid)
  match stopped with
  | [] =>
      rw [List.append_nil] at equal
      rw [equal, isRun, List.mem_singleton] at member
      exact ⟨[], [], by simp [equal, member], by simp, by simp⟩
  | next :: rest =>
      have isCut : cut next = true := by simpa using stops
      rw [equal, splitWhere_append isCut, isRun, List.singleton_append,
        List.mem_cons] at member
      rcases member with rfl | member
      · exact ⟨[], next :: rest, by simp [equal], by simp, by simpa using isCut⟩
      · rcases exists_of_mem_splitWhere member with ⟨before, after, restEq, starts, ends⟩
        refine ⟨run ++ next :: before, after, by simp [equal, restEq], ?_, ends⟩
        intro character isLast
        cases before with
        | nil =>
            rw [List.getLast?_concat] at isLast
            cases isLast
            exact isCut
        | cons head others =>
            rw [List.getLast?_append_of_ne_nil _ (List.cons_ne_nil _ _),
              List.getLast?_cons_cons] at isLast
            exact starts character isLast
termination_by text.length
decreasing_by
  rw [equal, List.length_append, List.length_cons]
  omega

end Pieces

/-! ## Words -/

theorem words_append {left gap right : List Char} (blank : allBlank gap = true)
    (apart : gap ≠ []) : words (left ++ gap ++ right) = words left ++ words right := by
  induction gap generalizing left with
  | nil => exact absurd rfl apart
  | cons character others induction =>
      rw [allBlank, List.all_cons, Bool.and_eq_true] at blank
      rw [List.append_assoc, List.cons_append, words, splitWhere_append blank.1,
        List.filter_append]
      change words left ++ words (others ++ right) = _
      cases others with
      | nil => rfl
      | cons next others =>
          have shorter :
              words ([] ++ next :: others ++ right) = words [] ++ words right :=
            induction blank.2 (List.cons_ne_nil _ _)
          rw [List.nil_append] at shorter
          rw [shorter]
          rfl

theorem mem_words {before word after : List Char} (nonempty : word ≠ [])
    (solid : ∀ character ∈ word, isBlank character = false)
    (starts : ∀ character ∈ before.getLast?, isBlank character = true)
    (stops : ∀ character ∈ after.head?, isBlank character = true) :
    word ∈ words (before ++ word ++ after) :=
  List.mem_filter.mpr ⟨mem_splitWhere solid starts stops, by simpa using nonempty⟩

theorem solid_of_mem_words {text word : List Char} (member : word ∈ words text) :
    ∀ character ∈ word, isBlank character = false :=
  fun _ inWord => not_cut_of_mem_splitWhere (List.mem_filter.mp member).1 inWord

theorem solid_of_words_eq {word : List Char} (isWord : words word = [word]) :
    ∀ character ∈ word, isBlank character = false :=
  solid_of_mem_words (isWord ▸ List.mem_singleton_self word)

theorem words_of_blank {text : List Char} (blank : allBlank text = true) :
    words text = [] := by
  cases text with
  | nil => rfl
  | cons first others =>
      have pieces : words ([] ++ first :: others ++ []) = words [] ++ words [] :=
        words_append blank (List.cons_ne_nil _ _)
      rw [List.append_nil] at pieces
      exact pieces

theorem words_gap_append {gap : List Char} (blank : allBlank gap = true)
    (text : List Char) :
    words (gap ++ text) = words text := by
  cases gap with
  | nil => rfl
  | cons first others =>
      have pieces : words ([] ++ first :: others ++ text) = words [] ++ words text :=
        words_append blank (List.cons_ne_nil _ _)
      exact pieces

theorem words_append_gap {gap : List Char} (blank : allBlank gap = true)
    (text : List Char) :
    words (text ++ gap) = words text := by
  cases gap with
  | nil => rw [List.append_nil]
  | cons first others =>
      have pieces : words (text ++ first :: others ++ []) = words text ++ words [] :=
        words_append blank (List.cons_ne_nil _ _)
      rw [List.append_nil] at pieces
      rw [pieces]
      exact List.append_nil _

theorem words_trim (text : List Char) : words (trim text) = words text := by
  rcases exists_trim text with ⟨before, after, equal, blankBefore, blankAfter⟩
  nth_rewrite 2 [equal]
  rw [words_append_gap blankAfter, words_gap_append blankBefore]

theorem words_trimEnd (text : List Char) : words (trimEnd text) = words text := by
  rw [← words_trim, trim_trimEnd, words_trim]

theorem words_of_solid {word : List Char} (nonempty : word ≠ [])
    (solid : ∀ character ∈ word, isBlank character = false) : words word = [word] := by
  rw [words, splitWhere_of_solid solid]
  exact List.filter_cons_of_pos (by simpa using nonempty)

theorem exists_mem_words {before part after : List Char} (nonempty : part ≠ [])
    (solid : ∀ character ∈ part, isBlank character = false) :
    ∃ front back, front ++ part ++ back ∈ words (before ++ part ++ after) ∧
      (∃ skipped, before = skipped ++ front) ∧ ∃ rest, after = back ++ rest := by
  rcases stopped : after.span (!isBlank ·) with ⟨back, rest⟩
  rcases started : before.reverse.span (!isBlank ·) with ⟨frontReversed, skippedReversed⟩
  rw [span_eq_iff] at started stopped
  rcases stopped with ⟨rfl, solidBack, stops⟩
  rcases started with ⟨beforeEq, solidFront, starts⟩
  have beforeEq' : before = skippedReversed.reverse ++ frontReversed.reverse := by
    rw [← List.reverse_append, ← beforeEq, List.reverse_reverse]
  refine ⟨frontReversed.reverse, back, ?_, ⟨_, beforeEq'⟩, rest, rfl⟩
  have regrouped : before ++ part ++ (back ++ rest) =
      skippedReversed.reverse ++ (frontReversed.reverse ++ part ++ back) ++ rest := by
    simp [beforeEq']
  rw [regrouped]
  apply mem_words
  · simp [nonempty]
  · intro character member
    rw [List.mem_append, List.mem_append, List.mem_reverse] at member
    rcases member with (inFront | inPart) | inBack
    · simpa using solidFront character inFront
    · exact solid character inPart
    · simpa using solidBack character inBack
  · rw [List.getLast?_reverse]
    simpa using starts
  · simpa using stops

theorem words_eq_nil_iff {text : List Char} : words text = [] ↔ allBlank text = true := by
  refine ⟨fun none => List.all_eq_true.mpr fun character member => ?_, words_of_blank⟩
  rw [← Bool.not_eq_false]
  intro solid
  rcases List.append_of_mem member with ⟨before, after, rfl⟩
  have solid' : ∀ other ∈ [character], isBlank other = false := by simpa using solid
  rcases @exists_mem_words before [character] after (List.cons_ne_nil _ _) solid' with
    ⟨_, _, inWords, _⟩
  rw [List.append_assoc, List.singleton_append, none] at inWords
  cases inWords

theorem words_ne_nil {text : List Char} {character : Char} (member : character ∈ text)
    (solid : isBlank character = false) : words text ≠ [] := by
  intro none
  have blank := List.all_eq_true.mp (words_eq_nil_iff.mp none) character member
  rw [solid] at blank
  cases blank

theorem IsTrimmed.length_words_pos {text : List Char} (trimmed : IsTrimmed text) :
    0 < (words text).length := by
  rcases List.exists_cons_of_ne_nil trimmed.nonempty with ⟨first, others, rfl⟩
  exact List.length_pos_iff.mpr (words_ne_nil List.mem_cons_self (trimmed.head first rfl))

theorem IsTrimmed.eq_of_words_eq_singleton {text word : List Char}
    (trimmed : IsTrimmed text) (single : words text = [word]) : text = word := by
  have solid : ∀ character ∈ text, isBlank character = false := by
    intro character member
    rw [← Bool.not_eq_true]
    intro blank
    rcases List.append_of_mem member with ⟨left, right, rfl⟩
    have pieces : words (left ++ [character] ++ right) = words left ++ words right :=
      words_append (by simp [allBlank, blank]) (List.cons_ne_nil _ _)
    rw [List.append_assoc, List.singleton_append, single] at pieces
    -- A blank between two words makes two words at least.
    have leftFilled : words left ≠ [] := by
      cases left with
      | nil => simp [trimmed.head character rfl] at blank
      | cons first others =>
          exact words_ne_nil List.mem_cons_self (trimmed.head first rfl)
    have rightFilled : words right ≠ [] := by
      rcases List.eq_nil_or_concat right with rfl | ⟨others, last, rfl⟩
      · simp [trimmed.last character (by simp)] at blank
      · exact words_ne_nil (by simp) (trimmed.last last (by simp [List.getLast?_cons]))
    rcases List.cons_eq_append_iff.mp pieces with ⟨none, _⟩ | ⟨_, _, none⟩
    · exact leftFilled none
    · exact rightFilled (List.append_eq_nil_iff.mp none.symm).2
  rw [words_of_solid trimmed.nonempty solid] at single
  exact List.head_eq_of_cons_eq single

end Criteria.Text
