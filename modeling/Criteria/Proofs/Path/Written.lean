import Criteria.Proofs.Number.Integer
import Criteria.Proofs.Path.Scanner

/-!
The texts of paths.

A path starts with a name, and names after dots and indexes in brackets follow. Writing
gives one text of a path, reading accepts others too: an index may be padded with zeros.
That is all the freedom there is. A text is read as a path exactly when the path can be
written and its written form is the text without the padding.
-/

namespace Criteria.Path

/-! ## Paths that can be written -/

/-- A path that has a text: it starts with a name, and no name could be taken for
structure. -/
structure WellFormed (path : Path) : Prop where
  starts : ∃ name, path.steps.head? = some (.attribute name)
  named : ∀ name, Step.attribute name ∈ path.steps → IsName name.toList

/-! ## Padding -/

/-- Leaves out the zeros between an opening bracket and a digit. `opened` tells that
such a bracket, or zeros that were left out after it, are just before the text. -/
def unpad (opened : Bool) : List Char → List Char
  | [] => []
  | character :: rest =>
      if opened && character == '0' && rest.head?.any Char.isDigit then unpad true rest
      else character :: unpad (character == '[') rest

def withoutPadding (text : List Char) : List Char :=
  unpad false text

def Padded (text : List Char) : Prop :=
  ∃ before digit after, text = before ++ '[' :: '0' :: digit :: after ∧
    digit.isDigit = true

theorem Padded.cons {text : List Char} (padded : Padded text) (character : Char) :
    Padded (character :: text) := by
  rcases padded with ⟨before, digit, after, rfl, isDigit⟩
  exact ⟨character :: before, digit, after, rfl, isDigit⟩

theorem unpad_of_not_padded {opened : Bool} {text : List Char}
    (notPadded : ¬ Padded (if opened then '[' :: text else text)) :
    unpad opened text = text := by
  induction text generalizing opened with
  | nil => rfl
  | cons character rest induction =>
      have wholeNotPadded : ¬ Padded (character :: rest) := by
        cases opened with
        | false => exact notPadded
        | true => exact fun padded => notPadded (padded.cons '[')
      have kept : ¬ (opened && character == '0' && rest.head?.any Char.isDigit) =
          true := by
        rw [Bool.and_eq_true, Bool.and_eq_true, beq_iff_eq]
        rintro ⟨⟨rfl, rfl⟩, digitFollows⟩
        cases rest with
        | nil => cases digitFollows
        | cons digit after => exact notPadded ⟨[], digit, after, rfl, digitFollows⟩
      have restNotPadded : ¬ Padded (if character == '[' then '[' :: rest else rest) := by
        split
        · rename_i isOpen
          rwa [← beq_iff_eq.mp isOpen]
        · exact fun padded => wholeNotPadded (padded.cons character)
      rw [unpad, if_neg kept, induction restNotPadded]

theorem withoutPadding_of_not_padded {text : List Char} (notPadded : ¬ Padded text) :
    withoutPadding text = text :=
  unpad_of_not_padded notPadded

/-! ## Indexes -/

theorem position?_toDigits (position : UInt64) :
    position? (Nat.toDigits 10 position.toNat) = some position := by
  have digits : (Nat.toDigits 10 position.toNat).all Char.isDigit = true :=
    List.all_eq_true.mpr fun _ => Number.isDigit_of_mem_toDigits
  have small := position.toNat_lt
  rw [position?, Decimal.digitsValue, Nat.ofDigitChars_ten_toDigits]
  simp [digits, UInt64.size, small]

theorem digitsValue_zero (digits : List Char) :
    Decimal.digitsValue ('0' :: digits) = Decimal.digitsValue digits := by
  rw [Decimal.digitsValue, Nat.ofDigitChars_cons]
  rfl

theorem position?_zero {digits : List Char} (nonempty : digits ≠ []) :
    position? ('0' :: digits) = position? digits := by
  simp [position?, digitsValue_zero, nonempty]

theorem position?_eq_some_iff {digits : List Char} {position : UInt64} :
    position? digits = some position ↔ digits ≠ [] ∧
      (∀ digit ∈ digits, digit.isDigit = true) ∧
      Decimal.digitsValue digits = position.toNat := by
  have small := position.toNat_lt
  simp only [position?, Option.ite_none_right_eq_some, Bool.and_eq_true,
    Bool.not_eq_true', List.isEmpty_eq_false_iff, List.all_eq_true, decide_eq_true_eq,
    and_assoc, Option.some.injEq]
  refine and_congr_right fun _ => and_congr_right fun _ => ?_
  constructor
  · rintro ⟨fits, rfl⟩
    exact (UInt64.toNat_ofNat_of_lt' fits).symm
  · intro value
    rw [value]
    exact ⟨small, UInt64.ofNat_toNat⟩

theorem exists_digitChar {digit : Char} (isDigit : digit.isDigit = true) :
    ∃ value < 10, Nat.digitChar value = digit := by
  have bounds : 48 ≤ digit.toNat ∧ digit.toNat ≤ 57 := Char.isDigit_iff_toNat.mp isDigit
  have small : digit.toNat - 48 < 10 := by omega
  refine ⟨digit.toNat - 48, small, Char.toNat_inj.mp ?_⟩
  rw [Nat.toNat_digitChar_of_lt_ten small]
  omega

theorem toDigits_ofDigitChars {digits : List Char} {value : Nat} (positive : 0 < value)
    (allDigits : ∀ digit ∈ digits, digit.isDigit = true) :
    Nat.toDigits 10 (Nat.ofDigitChars 10 digits value) = Nat.toDigits 10 value ++
      digits := by
  induction digits generalizing value with
  | nil => rw [Nat.ofDigitChars_nil, List.append_nil]
  | cons digit others induction =>
      rw [List.forall_mem_cons] at allDigits
      rcases exists_digitChar allDigits.1 with ⟨units, small, rfl⟩
      rw [Nat.ofDigitChars_cons_digitChar_of_lt_ten small,
        induction (by omega) allDigits.2,
        ← Nat.toDigits_append_toDigits (by decide) positive small,
        Nat.toDigits_of_lt_base small, List.append_assoc, List.singleton_append]

theorem toDigits_digitsValue {digit : Char} {others : List Char} (notZero : digit ≠ '0')
    (allDigits : ∀ digit' ∈ digit :: others, digit'.isDigit = true) :
    Nat.toDigits 10 (Decimal.digitsValue (digit :: others)) = digit :: others := by
  rw [List.forall_mem_cons] at allDigits
  rcases exists_digitChar allDigits.1 with ⟨units, small, rfl⟩
  have positive : 0 < units := by
    refine Nat.pos_of_ne_zero fun zero => notZero ?_
    rw [zero]
    rfl
  rw [Decimal.digitsValue, Nat.ofDigitChars_cons_digitChar_of_lt_ten small,
    toDigits_ofDigitChars (by omega) allDigits.2, Nat.mul_zero, Nat.zero_add,
    Nat.toDigits_of_lt_base small, List.singleton_append]

theorem unpad_append {text : List Char} (rest : List Char) (notOpen : '[' ∉ text) :
    unpad false (text ++ rest) = text ++ unpad false rest := by
  induction text with
  | nil => rfl
  | cons character others induction =>
      rw [List.mem_cons, not_or] at notOpen
      have stays : (character == '[') = false :=
        beq_eq_false_iff_ne.mpr (Ne.symm notOpen.1)
      rw [List.cons_append, unpad, if_neg (by simp), stays, induction notOpen.2,
        List.cons_append]

theorem unpad_digits {digits : List Char} (rest : List Char) (nonempty : digits ≠ [])
    (allDigits : ∀ digit ∈ digits, digit.isDigit = true) :
    unpad true (digits ++ ']' :: rest) =
      Nat.toDigits 10 (Decimal.digitsValue digits) ++ ']' :: unpad false rest := by
  have bracket : unpad false ([']'] ++ rest) = [']'] ++ unpad false rest :=
    unpad_append rest (by decide)
  induction digits with
  | nil => exact absurd rfl nonempty
  | cons first others induction =>
      have further := (List.forall_mem_cons.mp allDigits).2
      by_cases isZero : first = '0'
      · subst isZero
        cases others with
        | nil =>
            rw [List.singleton_append, unpad,
              if_neg (by simp [show ']'.isDigit = false by decide])]
            exact congrArg ('0' :: ·) bracket
        | cons digit more =>
            have isPadding : (true && '0' == '0' &&
                ((digit :: more) ++ ']' :: rest).head?.any Char.isDigit) = true :=
              further digit List.mem_cons_self
            rw [List.cons_append, unpad, if_pos isPadding,
              induction (List.cons_ne_nil _ _) further, digitsValue_zero]
      · have notOpen {digit : Char} (isDigit : digit.isDigit = true) : '[' ≠ digit := by
          rintro rfl
          cases isDigit
        have stays : (first == '[') = false :=
          beq_eq_false_iff_ne.mpr (notOpen (allDigits first List.mem_cons_self)).symm
        rw [List.cons_append, unpad, if_neg (by simp [isZero]), stays,
          unpad_append _ fun member => notOpen (further _ member) rfl,
          toDigits_digitsValue isZero allDigits]
        exact congrArg (first :: others ++ ·) bracket

/-! ## Reading without padding -/

namespace Scanner

theorem run?_index_zero (before : List Step) {digit : Char} (rest : List Char)
    (isDigit : digit.isDigit = true) :
    run? ⟨before, .index []⟩ ('0' :: digit :: rest) =
      run? ⟨before, .index []⟩ (digit :: rest) := by
  by_cases closes : ']' ∈ digit :: rest
  · rcases List.eq_append_cons_of_mem closes with ⟨body, after, split, noBracket⟩
    have nonempty : body ≠ [] := by
      rintro rfl
      cases split
      cases isDigit
    have noBracket' : ']' ∉ '0' :: body := by simp [noBracket]
    rw [split, ← List.cons_append, run?_index after rfl noBracket',
      run?_index after rfl noBracket, List.nil_append, List.nil_append,
      position?_zero nonempty]
  · have noBracket : ']' ∉ '0' :: digit :: rest := by simpa using closes
    rw [run?_index_of_open noBracket, run?_index_of_open closes]

theorem run?_unpad {opened : Bool} {scanner : Scanner} (text : List Char)
    (isOpened : opened = true → ∃ before, scanner = ⟨before, .index []⟩) :
    scanner.run? (unpad opened text) = scanner.run? text := by
  induction text generalizing opened scanner with
  | nil => rfl
  | cons character rest induction =>
      rw [unpad]
      split
      · rename_i isPadding
        rw [Bool.and_eq_true, Bool.and_eq_true, beq_iff_eq] at isPadding
        rcases isPadding with ⟨⟨rfl, rfl⟩, digitFollows⟩
        rcases isOpened rfl with ⟨before, rfl⟩
        rw [induction isOpened]
        cases rest with
        | nil => cases digitFollows
        | cons digit after => exact (run?_index_zero before after digitFollows).symm
      · rw [run?_cons, run?_cons]
        refine Option.bind_congr fun next stepped => induction fun isOpen => ?_
        rw [beq_iff_eq] at isOpen
        subst isOpen
        rcases Option.map_eq_some_iff.mp stepped with ⟨before, _, rfl⟩
        exact ⟨before, rfl⟩

end Scanner

theorem scan?_withoutPadding (text : List Char) :
    scan? (withoutPadding text) = scan? text := by
  have noBracket : false = true →
      ∃ before, (⟨[], .start⟩ : Scanner) = ⟨before, .index []⟩ :=
    fun opened => nomatch opened
  rw [scan?, scan?, withoutPadding, Scanner.run?_unpad text noBracket]

/-! ## Grammar -/

inductive Follows : List Step → List Char → Prop
  | nil : Follows [] []
  | name {name rest : List Char} {steps : List Step} (isName : IsName name)
      (follows : Follows steps rest) :
      Follows (.attribute (String.ofList name) :: steps) ('.' :: (name ++ rest))
  | index {digits rest : List Char} {position : UInt64} {steps : List Step}
      (isPosition : position? digits = some position) (follows : Follows steps rest) :
      Follows (.index position :: steps) ('[' :: (digits ++ ']' :: rest))

inductive Written : Path → List Char → Prop
  | intro {name rest : List Char} {steps : List Step} (isName : IsName name)
      (follows : Follows steps rest) :
      Written ⟨.attribute (String.ofList name) :: steps⟩ (name ++ rest)

variable {steps : List Step} {text : List Char}

theorem Follows.special (follows : Follows steps text) :
    ∀ next ∈ text.head?, next ∈ ".[]".toList := by
  cases follows with
  | nil => nofun
  | name => rintro next ⟨⟩; decide
  | index => rintro next ⟨⟩; decide

namespace Scanner

theorem run?_of_follows (follows : Follows steps text) (before : List Step) :
    run? ⟨before, .closed⟩ text = some (before ++ steps) := by
  induction follows generalizing before with
  | nil =>
      rw [List.append_nil]
      rfl
  | name isName follows induction =>
      rw [run?_cons, step?, if_pos rfl, finish?, Option.map_some, Option.bind_some,
        run?_isName isName follows.special, induction, List.append_assoc,
        List.singleton_append]
  | @index digits rest position steps isPosition follows induction =>
      have noBracket : ']' ∉ digits := by
        intro member
        have isDigit := (position?_eq_some_iff.mp isPosition).2.1 _ member
        cases isDigit
      rw [run?_cons, step?, if_neg (by decide), if_pos rfl, finish?, Option.map_some,
        Option.bind_some, run?_index rest rfl noBracket, List.nil_append, isPosition,
        Option.bind_some, induction, List.append_assoc, List.singleton_append]

theorem follows_of_run? {before : List Step} (text : List Char)
    (reads : run? ⟨before, .closed⟩ text = some steps) :
    ∃ tail, steps = before ++ tail ∧ Follows tail text := by
  match text with
  | [] =>
      cases reads
      exact ⟨[], (List.append_nil _).symm, .nil⟩
  | character :: rest =>
      rw [run?_cons] at reads
      by_cases isDot : character = '.'
      · subst isDot
        change run? ⟨before, .start⟩ rest = some steps at reads
        rcases exists_name rest with ⟨name, after, parts, isName, ends⟩
        rw [parts] at reads
        rcases isName with rfl | isName
        · rw [List.nil_append, run?_noName ends] at reads
          cases reads
        · rw [run?_isName isName ends] at reads
          rcases follows_of_run? after reads with ⟨tail, rfl, follows⟩
          exact ⟨_, List.append_assoc .., parts ▸ .name isName follows⟩
      · by_cases isOpen : character = '['
        · subst isOpen
          change run? ⟨before, .index []⟩ rest = some steps at reads
          by_cases closes : ']' ∈ rest
          · rcases List.eq_append_cons_of_mem closes with
              ⟨digits, after, parts, noBracket⟩
            rw [parts, run?_index after rfl noBracket, Option.bind_eq_some_iff] at reads
            rcases reads with ⟨position, isPosition, reads⟩
            rcases follows_of_run? after reads with ⟨tail, rfl, follows⟩
            exact ⟨_, List.append_assoc .., parts ▸ .index isPosition follows⟩
          · rw [run?_index_of_open closes] at reads
            cases reads
        · rw [step?_closed_of_ne isDot isOpen] at reads
          cases reads
termination_by text.length
decreasing_by
  all_goals
    simp only [parts, List.length_cons, List.length_append]
    omega

end Scanner

theorem scan?_eq_some_iff {path : Path} : scan? text = some path ↔ Written path text := by
  constructor
  · intro reads
    rcases Option.map_eq_some_iff.mp reads with ⟨steps, run, rfl⟩
    rcases exists_name text with ⟨name, rest, rfl, isName, ends⟩
    rcases isName with rfl | isName
    · rw [List.nil_append, Scanner.run?_noName ends] at run
      cases run
    · rw [Scanner.run?_isName isName ends] at run
      rcases Scanner.follows_of_run? rest run with ⟨tail, rfl, follows⟩
      exact .intro isName follows
  · rintro ⟨isName, follows⟩
    rw [scan?, Scanner.run?_isName isName follows.special,
      Scanner.run?_of_follows follows]
    rfl

/-! ## Writing -/

theorem text_of_name (name : String) (steps : List Step) :
    Path.text ⟨.attribute name :: steps⟩ = name.toList ++ steps.flatMap stepText :=
  rfl

theorem named_of_follows (follows : Follows steps text) :
    ∀ name, Step.attribute name ∈ steps → IsName name.toList := by
  induction follows with
  | nil => nofun
  | name isName follows induction =>
      intro other member
      rcases List.mem_cons.mp member with same | member
      · cases same
        rwa [String.toList_ofList]
      · exact induction other member
  | index isPosition follows induction =>
      intro other member
      rcases List.mem_cons.mp member with same | member
      · cases same
      · exact induction other member

theorem unpad_of_follows (follows : Follows steps text) :
    unpad false text = steps.flatMap stepText := by
  induction follows with
  | nil => rfl
  | @name name rest steps isName follows induction =>
      have notOpen : '[' ∉ '.' :: name := by
        rintro (_ | ⟨_, member⟩)
        exact isName.plain _ member (by decide)
      rw [← List.cons_append, unpad_append rest notOpen, induction, List.flatMap_cons,
        stepText, String.toList_ofList]
  | @index digits rest position steps isPosition follows induction =>
      rcases position?_eq_some_iff.mp isPosition with ⟨nonempty, allDigits, value⟩
      have opened : unpad false ('[' :: (digits ++ ']' :: rest)) =
          '[' :: unpad true (digits ++ ']' :: rest) := rfl
      rw [opened, unpad_digits rest nonempty allDigits, value, induction,
        List.flatMap_cons, stepText]
      simp

theorem follows_flatMap
    (named : ∀ name, Step.attribute name ∈ steps → IsName name.toList) :
    Follows steps (steps.flatMap stepText) := by
  induction steps with
  | nil => exact .nil
  | cons step others induction =>
      have follows := induction fun name member =>
        named name (List.mem_cons_of_mem step member)
      match step with
      | .attribute name =>
          have written := Follows.name (named name List.mem_cons_self) follows
          rwa [String.ofList_toList] at written
      | .index position =>
          have written := Follows.index (position?_toDigits position) follows
          rw [List.flatMap_cons, stepText]
          simpa using written

theorem Written.wellFormed {path : Path} (written : Written path text) :
    path.WellFormed := by
  rcases written with ⟨isName, follows⟩
  refine ⟨⟨_, rfl⟩, fun other member => ?_⟩
  rcases List.mem_cons.mp member with same | member
  · cases same
    rwa [String.toList_ofList]
  · exact named_of_follows follows other member

theorem Written.text_eq {path : Path} (written : Written path text) :
    path.text = withoutPadding text := by
  rcases written with ⟨isName, follows⟩
  have notOpen : '[' ∉ _ := fun member => isName.plain _ member (by decide)
  rw [withoutPadding, unpad_append _ notOpen, unpad_of_follows follows, text_of_name,
    String.toList_ofList]

theorem WellFormed.written {path : Path} (wellFormed : path.WellFormed) :
    Written path path.text := by
  rcases wellFormed.starts with ⟨name, starts⟩
  rcases List.head?_eq_some_iff.mp starts with ⟨others, steps⟩
  have named := wellFormed.named
  rcases path with ⟨steps⟩
  subst steps
  have follows := follows_flatMap fun name member =>
    named name (List.mem_cons_of_mem _ member)
  have written := Written.intro (named name List.mem_cons_self) follows
  rwa [String.ofList_toList] at written

/-- A text is read as a path exactly when the path can be written and its text is the
one that was read, without padding. So what is written is read again, and what was read
without padding is written again. -/
theorem read?_iff_text (text : List Char) (path : Path) :
    (read? text = some path ↔ path.WellFormed ∧ path.text = withoutPadding text) ∧
      (path.WellFormed → read? path.text = some path) ∧
      (read? text = some path → ¬ Padded text → path.text = text) := by
  have reads : read? text = some path ↔
      path.WellFormed ∧ path.text = withoutPadding text := by
    rw [read?_eq_scan?]
    constructor
    · intro scanned
      have written := scan?_eq_some_iff.mp scanned
      exact ⟨written.wellFormed, written.text_eq⟩
    · rintro ⟨wellFormed, unpadded⟩
      rw [← scan?_withoutPadding, ← unpadded]
      exact scan?_eq_some_iff.mpr wellFormed.written
  refine ⟨reads, fun wellFormed => ?_, fun isPath notPadded => ?_⟩
  · rw [read?_eq_scan?]
    exact scan?_eq_some_iff.mpr wellFormed.written
  · rw [(reads.mp isPath).2, withoutPadding_of_not_padded notPadded]

end Criteria.Path
