import Criteria.Value.Path
import Criteria.Proofs.Text.Blank

/-!
Paths read character by character.

A scanner takes the steps of a path from the left. Before a dot it must be where a text
can end, and after the dot it is where a text starts, with the steps so far in front.
So it reads what is on both sides of a dot as two texts of their own, and between dots
it reads one segment. That is how a path is read in pieces: both ways give the same
path, or none.
-/

namespace Criteria.Path

/-- Where a scanner is: where a name must start, in a name, in brackets or behind them. -/
inductive Scanner.Place where
  | start
  | name (characters : List Char)
  | index (digits : List Char)
  | closed

structure Scanner where
  steps : List Step
  place : Scanner.Place

namespace Scanner

def finish? (scanner : Scanner) : Option (List Step) :=
  match scanner.place with
  | .name characters => some (scanner.steps ++ [.attribute (String.ofList characters)])
  | .closed => some scanner.steps
  | .start | .index _ => none

def close? (scanner : Scanner) : Option Scanner :=
  match scanner.place with
  | .index digits => (position? digits).map fun position =>
      ⟨scanner.steps ++ [.index position], .closed⟩
  | .start | .name _ | .closed => none

def extend? (scanner : Scanner) (character : Char) : Option Scanner :=
  match scanner.place with
  | .start => some { scanner with place := .name [character] }
  | .name characters => some { scanner with place := .name (characters ++ [character]) }
  | .index digits =>
      if character.isDigit then
        some { scanner with place := .index (digits ++ [character]) }
      else none
  | .closed => none

def step? (scanner : Scanner) (character : Char) : Option Scanner :=
  if character = '.' then scanner.finish?.map (⟨·, .start⟩)
  else if character = '[' then scanner.finish?.map (⟨·, .index []⟩)
  else if character = ']' then scanner.close?
  else scanner.extend? character

def run? (scanner : Scanner) (text : List Char) : Option (List Step) :=
  (text.foldlM step? scanner).bind finish?

end Scanner

def scan? (text : List Char) : Option Path :=
  (Scanner.run? ⟨[], .start⟩ text).map Path.mk

namespace Scanner

variable {scanner : Scanner} {steps : List Step} {character : Char} {text : List Char}

theorem run?_nil (scanner : Scanner) : scanner.run? [] = scanner.finish? :=
  rfl

theorem run?_cons (scanner : Scanner) (character : Char) (text : List Char) :
    scanner.run? (character :: text) = (scanner.step? character).bind (·.run? text) := by
  rw [run?, List.foldlM_cons]
  exact Option.bind_assoc _ _ _

/-! ## Steps in front -/

def prepend (before : List Step) (scanner : Scanner) : Scanner :=
  ⟨before ++ scanner.steps, scanner.place⟩

theorem finish?_prepend (before : List Step) (scanner : Scanner) :
    (scanner.prepend before).finish? = scanner.finish?.map (before ++ ·) := by
  rcases scanner with ⟨steps, place⟩
  cases place <;> simp [finish?, prepend]

theorem step?_prepend (before : List Step) (scanner : Scanner) (character : Char) :
    (scanner.prepend before).step? character =
      (scanner.step? character).map (prepend before) := by
  have closes :
      (scanner.prepend before).close? = scanner.close?.map (prepend before) := by
    rcases scanner with ⟨steps, place⟩
    cases place <;> simp [close?, prepend, Function.comp_def]
  have extends' : (scanner.prepend before).extend? character =
      (scanner.extend? character).map (prepend before) := by
    rcases scanner with ⟨steps, place⟩
    cases place <;> simp only [extend?, prepend, Option.map_some, Option.map_none]
    split <;> rfl
  simp only [step?, finish?_prepend, closes, extends']
  repeat' split
  all_goals simp [prepend, Function.comp_def]

theorem run?_prepend (before : List Step) (scanner : Scanner) (text : List Char) :
    (scanner.prepend before).run? text = (scanner.run? text).map (before ++ ·) := by
  induction text generalizing scanner with
  | nil => exact finish?_prepend before scanner
  | cons character rest induction =>
      rw [run?_cons, run?_cons, step?_prepend, Option.bind_map, Option.map_bind]
      exact Option.bind_congr fun next _ => induction next

theorem run?_append {rest : List Char} {goOn : List Step → Option (List Step)}
    (behind : ∀ scanner : Scanner, scanner.run? rest = scanner.finish?.bind goOn)
    (scanner : Scanner) (left : List Char) :
    scanner.run? (left ++ rest) = (scanner.run? left).bind goOn := by
  induction left generalizing scanner with
  | nil => exact behind scanner
  | cons character others induction =>
      rw [List.cons_append, run?_cons, run?_cons, Option.bind_assoc]
      exact Option.bind_congr fun next _ => induction next

theorem run?_append_dot (scanner : Scanner) (left right : List Char) :
    scanner.run? (left ++ '.' :: right) = (scanner.run? left).bind fun before =>
      (run? ⟨[], .start⟩ right).map (before ++ ·) := by
  refine run?_append (fun scanner => ?_) scanner left
  rw [run?_cons, step?, if_pos rfl, Option.bind_map]
  refine Option.bind_congr fun before _ => ?_
  rw [← run?_prepend, prepend, List.append_nil]
  rfl

/-! ## Brackets -/

theorem step?_index_eq_none {before : List Step} {digits : List Char}
    (notBracket : character ≠ ']') (notDigit : character.isDigit = false) :
    step? ⟨before, .index digits⟩ character = none := by
  rw [step?, if_neg notBracket]
  simp [finish?, extend?, notDigit]

theorem step?_index_of_isDigit {before : List Step} {digits : List Char}
    (isDigit : character.isDigit = true) :
    step? ⟨before, .index digits⟩ character =
      some ⟨before, .index (digits ++ [character])⟩ := by
  have notSpecial {special : Char} (noDigit : special.isDigit = false) :
      character ≠ special := by
    rintro rfl
    rw [isDigit] at noDigit
    cases noDigit
  rw [step?, if_neg (notSpecial (by decide)), if_neg (notSpecial (by decide)),
    if_neg (notSpecial (by decide))]
  simp [extend?, isDigit]

theorem run?_index_of_open {before : List Step} {digits : List Char}
    (noBracket : ']' ∉ text) :
    run? ⟨before, .index digits⟩ text = none := by
  induction text generalizing digits with
  | nil => rfl
  | cons character rest induction =>
      rw [List.mem_cons, not_or] at noBracket
      rw [run?_cons]
      cases isDigit : character.isDigit with
      | false =>
          rw [step?_index_eq_none (Ne.symm noBracket.1) isDigit]
          rfl
      | true =>
          rw [step?_index_of_isDigit isDigit]
          exact induction noBracket.2

theorem run?_index {before : List Step} {digits body : List Char} (rest : List Char)
    (allDigits : digits.all Char.isDigit = true) (noBracket : ']' ∉ body) :
    run? ⟨before, .index digits⟩ (body ++ ']' :: rest) =
      (position? (digits ++ body)).bind fun position =>
        run? ⟨before ++ [.index position], .closed⟩ rest := by
  induction body generalizing digits with
  | nil =>
      rw [List.nil_append, List.append_nil, run?_cons, step?, if_neg (by decide),
        if_neg (by decide), if_pos rfl, close?, Option.bind_map]
      rfl
  | cons character others induction =>
      rw [List.mem_cons, not_or] at noBracket
      rw [List.cons_append, run?_cons]
      cases isDigit : character.isDigit with
      | false =>
          rw [step?_index_eq_none (Ne.symm noBracket.1) isDigit, position?]
          simp [isDigit]
      | true =>
          rw [step?_index_of_isDigit isDigit, Option.bind_some, induction _ noBracket.2,
            List.append_assoc, List.singleton_append]
          simp [allDigits, isDigit]

end Scanner

/-! ## Indexes -/

theorem Scanner.step?_closed_of_ne {before : List Step} {character : Char}
    (notDot : character ≠ '.') (notOpen : character ≠ '[') :
    step? ⟨before, .closed⟩ character = none := by
  rw [step?, if_neg notDot, if_neg notOpen]
  exact ite_self none

theorem splitWhere_of_open {text : List Char} (noBracket : ']' ∉ text) :
    Text.splitWhere (· == ']') text = [text] := by
  refine Text.splitWhere_of_solid fun character member => ?_
  exact beq_eq_false_iff_ne.mpr fun isBracket => noBracket (isBracket ▸ member)

theorem indexes?_nil : indexes? [] = some [] :=
  rfl

theorem indexes?_of_open {text : List Char} (nonempty : text ≠ [])
    (noBracket : ']' ∉ text) :
    indexes? text = none := by
  rw [indexes?, splitWhere_of_open noBracket]
  exact if_neg fun last => nonempty (Option.some.inj last)

theorem indexes?_bracket {body : List Char} (rest : List Char) (noBracket : ']' ∉ body) :
    indexes? (body ++ ']' :: rest) =
      (index? body).bind fun step => (indexes? rest).map (step :: ·) := by
  rcases List.exists_cons_of_ne_nil (Text.splitWhere_ne_nil (· == ']') rest) with
    ⟨first, others, pieces⟩
  have cut : Text.splitWhere (· == ']') (body ++ ']' :: rest) =
      body :: first :: others := by
    rw [Text.splitWhere_append, splitWhere_of_open noBracket, pieces]
    · rfl
    · rfl
  rw [indexes?, indexes?, cut, pieces]
  simp only [List.getLast?_cons_cons, List.dropLast_cons_cons, List.mapM_cons]
  cases index? body with
  | none => exact ite_self none
  | some step =>
      split
      · cases List.mapM index? (first :: others).dropLast <;> rfl
      · rfl

theorem indexes?_of_not_open {character : Char} (rest : List Char)
    (notOpen : character ≠ '[') :
    indexes? (character :: rest) = none := by
  by_cases closes : ']' ∈ character :: rest
  · rcases List.eq_append_cons_of_mem closes with ⟨body, after, split, noBracket⟩
    have noIndex : index? body = none := by
      cases body with
      | nil => rfl
      | cons first others =>
          cases split
          rw [index?]
          exact fun _ isOpen => notOpen (List.cons.inj isOpen).1
    rw [split, indexes?_bracket after noBracket, noIndex]
    rfl
  · exact indexes?_of_open (List.cons_ne_nil _ _) closes

namespace Scanner

theorem run?_closed (before : List Step) {text : List Char} (noDot : '.' ∉ text) :
    run? ⟨before, .closed⟩ text = (indexes? text).map (before ++ ·) := by
  match text with
  | [] => simp [run?_nil, finish?, indexes?_nil]
  | character :: rest =>
      rw [List.mem_cons, not_or] at noDot
      rw [run?_cons]
      by_cases isOpen : character = '['
      · subst isOpen
        have stepped : step? ⟨before, .closed⟩ '[' = some ⟨before, .index []⟩ := rfl
        rw [stepped, Option.bind_some]
        by_cases closes : ']' ∈ rest
        · rcases List.eq_append_cons_of_mem closes with ⟨body, after, rfl, noBracket⟩
          have noDot' : '.' ∉ after := fun member => noDot.2 (by simp [member])
          have noBracket' : ']' ∉ '[' :: body := by simp [noBracket]
          rw [run?_index after rfl noBracket, List.nil_append, ← List.cons_append,
            indexes?_bracket after noBracket', index?, Option.bind_map, Option.map_bind]
          refine Option.bind_congr fun position _ => ?_
          refine (run?_closed (before ++ [.index position]) noDot').trans ?_
          simp [Function.comp_def]
        · have noBracket : ']' ∉ '[' :: rest := by simp [closes]
          rw [run?_index_of_open closes,
            indexes?_of_open (List.cons_ne_nil _ _) noBracket]
          rfl
      · rw [indexes?_of_not_open rest isOpen, step?_closed_of_ne (Ne.symm noDot.1) isOpen]
        rfl
termination_by text.length

end Scanner

/-! ## Names -/

theorem mem_structure_iff {character : Char} :
    character ∈ ".[]".toList ↔ character = '.' ∨ character = '[' ∨ character = ']' := by
  simp only [String.reduceToList, List.mem_cons, List.not_mem_nil, or_false]

/-- A name that a path can hold: none of its characters could be taken for structure. -/
structure IsName (name : List Char) : Prop where
  nonempty : name ≠ []
  plain : ∀ character ∈ name, character ∉ ".[]".toList

theorem exists_name (text : List Char) :
    ∃ name rest, text = name ++ rest ∧ (name = [] ∨ IsName name) ∧
      ∀ next ∈ rest.head?, next ∈ ".[]".toList := by
  rcases spans : text.span (fun character => decide (character ∉ ".[]".toList)) with
    ⟨name, rest⟩
  rw [Text.span_eq_iff] at spans
  rcases spans with ⟨parts, plain, ends⟩
  simp only [decide_eq_true_eq] at plain
  simp only [decide_eq_false_iff_not, not_not] at ends
  refine ⟨name, rest, parts, ?_, ends⟩
  by_cases empty : name = []
  · exact .inl empty
  · exact .inr ⟨empty, plain⟩

namespace Scanner

theorem step?_of_plain (scanner : Scanner) (plain : character ∉ ".[]".toList) :
    scanner.step? character = scanner.extend? character := by
  rw [mem_structure_iff, not_or, not_or] at plain
  rw [step?, if_neg plain.1, if_neg plain.2.1, if_neg plain.2.2]

theorem run?_name {before : List Step} {characters name : List Char} (rest : List Char)
    (plain : ∀ character ∈ name, character ∉ ".[]".toList) :
    run? ⟨before, .name characters⟩ (name ++ rest) =
      run? ⟨before, .name (characters ++ name)⟩ rest := by
  induction name generalizing characters with
  | nil => rw [List.nil_append, List.append_nil]
  | cons character others induction =>
      rw [List.forall_mem_cons] at plain
      rw [List.cons_append, run?_cons, step?_of_plain _ plain.1, extend?,
        Option.bind_some, induction plain.2, List.append_assoc, List.singleton_append]

theorem run?_name_end {before : List Step} {characters rest : List Char}
    (ends : ∀ next ∈ rest.head?, next ∈ ".[]".toList) :
    run? ⟨before, .name characters⟩ rest =
      run? ⟨before ++ [.attribute (String.ofList characters)], .closed⟩ rest := by
  cases rest with
  | nil => rfl
  | cons next others =>
      rcases mem_structure_iff.mp (ends next rfl) with rfl | rfl | rfl <;> rfl

theorem run?_isName {before : List Step} {name rest : List Char} (isName : IsName name)
    (ends : ∀ next ∈ rest.head?, next ∈ ".[]".toList) :
    run? ⟨before, .start⟩ (name ++ rest) =
      run? ⟨before ++ [.attribute (String.ofList name)], .closed⟩ rest := by
  rcases List.exists_cons_of_ne_nil isName.nonempty with ⟨first, others, rfl⟩
  have plain := List.forall_mem_cons.mp isName.plain
  rw [List.cons_append, run?_cons, step?_of_plain _ plain.1, extend?, Option.bind_some,
    run?_name rest plain.2, run?_name_end ends, List.singleton_append]

theorem run?_noName {before : List Step} {rest : List Char}
    (ends : ∀ next ∈ rest.head?, next ∈ ".[]".toList) :
    run? ⟨before, .start⟩ rest = none := by
  cases rest with
  | nil => rfl
  | cons next others =>
      rcases mem_structure_iff.mp (ends next rfl) with rfl | rfl | rfl <;> rfl

end Scanner

/-! ## Segments -/

theorem segment?_eq {name rest : List Char} (noDot : '.' ∉ rest)
    (isName : name = [] ∨ IsName name) (ends : ∀ next ∈ rest.head?, next ∈ ".[]".toList) :
    segment? (name ++ rest) =
      if name.isEmpty then none
      else (indexes? rest).map (.attribute (String.ofList name) :: ·) := by
  have spans : (name ++ rest).span isNameCharacter = (name, rest) := by
    rw [Text.span_eq_iff]
    refine ⟨rfl, fun character member => ?_, fun next isHead => ?_⟩
    · rcases isName with rfl | isName
      · cases member
      · have plain := isName.plain character member
        rw [mem_structure_iff, not_or, not_or] at plain
        rw [isNameCharacter, Bool.and_eq_true, bne_iff_ne, bne_iff_ne]
        exact plain.2
    · rcases mem_structure_iff.mp (ends next isHead) with rfl | rfl | rfl
      · exact absurd (List.mem_of_mem_head? isHead) noDot
      · rfl
      · rfl
  rw [segment?, spans]

theorem Scanner.run?_start {text : List Char} (noDot : '.' ∉ text) :
    run? ⟨[], .start⟩ text = segment? text := by
  rcases exists_name text with ⟨name, rest, rfl, isName, ends⟩
  rw [List.mem_append, not_or] at noDot
  rw [segment?_eq noDot.2 isName ends]
  rcases isName with rfl | isName
  · exact run?_noName ends
  · rw [run?_isName isName ends, run?_closed _ noDot.2,
      if_neg (by simpa using isName.nonempty)]
    rfl

/-! ## Dots -/

theorem read?_of_noDot {text : List Char} (noDot : '.' ∉ text) :
    read? text = (segment? text).map Path.mk := by
  have solid : ∀ character ∈ text, (character == '.') = false := by
    intro character member
    exact beq_eq_false_iff_ne.mpr fun isDot => noDot (isDot ▸ member)
  rw [read?, Text.splitWhere_of_solid solid, List.mapM_cons, List.mapM_nil]
  cases segment? text with
  | none => rfl
  | some steps =>
      change some (Path.mk (steps ++ [])) = some (Path.mk steps)
      rw [List.append_nil]

theorem read?_append_dot (left right : List Char) :
    read? (left ++ '.' :: right) = (read? left).bind fun before =>
      (read? right).map fun after => ⟨before.steps ++ after.steps⟩ := by
  rw [read?, read?, read?, Text.splitWhere_append (by rfl), List.mapM_append]
  cases (Text.splitWhere (· == '.') left).mapM segment? with
  | none => rfl
  | some before =>
      cases (Text.splitWhere (· == '.') right).mapM segment? with
      | none => rfl
      | some after =>
          change some (Path.mk (before ++ after).flatten) = _
          rw [List.flatten_append]
          rfl

theorem scan?_append_dot (left right : List Char) :
    scan? (left ++ '.' :: right) = (scan? left).bind fun before =>
      (scan? right).map fun after => ⟨before.steps ++ after.steps⟩ := by
  rw [scan?, scan?, scan?, Scanner.run?_append_dot, Option.bind_map, Option.map_bind]
  refine Option.bind_congr fun before _ => ?_
  simp [Function.comp_def]

/-- Reading in pieces and reading character by character give the same path. -/
theorem read?_eq_scan? (text : List Char) : read? text = scan? text := by
  by_cases hasDot : '.' ∈ text
  · rcases List.eq_append_cons_of_mem hasDot with ⟨left, right, parts, _⟩
    rw [parts, read?_append_dot, scan?_append_dot, read?_eq_scan? left,
      read?_eq_scan? right]
  · rw [read?_of_noDot hasDot, scan?, Scanner.run?_start hasDot]
termination_by text.length
decreasing_by
  all_goals
    rw [parts, List.length_append, List.length_cons]
    omega

end Criteria.Path
