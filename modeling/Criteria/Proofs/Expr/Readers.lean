import Criteria.Proofs.Condition.Written
import Criteria.Proofs.Expr.Standalone
import Criteria.Proofs.Text.Hidden

/-!
The readers of quotes and parentheses agree.

The splitter comes to a leaf somewhere in an expression, with parentheses open before
it, and the readers of a condition start at the leaf. Both see the same quotes and
parentheses in it: quotes that open a leaf are closed in it, and the parenthesis behind
the name of a function is closed where the splitter has as many parentheses open again
as before the leaf.
-/

namespace Criteria

open Nesting (outside parenthesize)

/-! ## Parentheses that a splitter has open -/

namespace Term.Splitter

def depth? (start : Nat) (text : List Char) : Option Nat :=
  (text.foldlM step? (new start)).map fun splitter => splitter.nesting.depth

theorem depth?_eq (start : Nat) (text : List Char) :
    depth? start text = (outside.scan? text).map Nesting.depth := by
  have scanned : (text.foldlM step? (new start)).map Splitter.nesting =
      outside.scan? text :=
    map_nesting_foldlM (new start) text
  rw [depth?, ← scanned, Option.map_map]
  rfl

/-- The parenthesis that a splitter comes to behind `before` is closed behind `inside`:
there, and not before, it has `level` open again. -/
structure Closes (start level : Nat) (before inside : List Char) : Prop where
  opens : depth? start before = some level
  deeper : ∀ read, read <+: inside →
    ∃ depth, depth? start (before ++ '(' :: read) = some depth ∧ level < depth
  returns : depth? start (before ++ parenthesize inside) = some level

theorem depth?_of_scan? {start level : Nat} {text : List Char}
    (scanned : outside.scan? text = some (outside.lower level)) :
    depth? start text = some level := by
  rw [depth?_eq, scanned]
  exact congrArg some (Nat.zero_add level)

theorem closes_of_balanced {start level : Nat} {before inside : List Char}
    (scanned : outside.scan? before = some (outside.lower level))
    (balanced : Nesting.Balanced inside) : Closes start level before inside where
  opens := depth?_of_scan? scanned
  deeper := by
    rintro read ⟨rest, rfl⟩
    rw [Nesting.Balanced, Nesting.scan?_append, Option.bind_eq_some_iff] at balanced
    rcases balanced with ⟨position, reads, _⟩
    have opened : (outside.lower level).scan? ('(' :: read) =
        some (position.deeper.lower level) := by
      apply Nesting.scan?_lower
      rw [Nesting.scan?_cons, Nesting.step?_outside_open, Option.bind_some,
        Nesting.scan?_deeper reads]
    refine ⟨position.depth + 1 + level, ?_, by omega⟩
    rw [depth?_eq, Nesting.scan?_append, scanned, Option.bind_some, opened]
    rfl
  returns := by
    apply depth?_of_scan?
    rw [Nesting.scan?_append, scanned, Option.bind_some,
      Nesting.scan?_lower balanced.parenthesize]

end Term.Splitter

/-! ## The start of a leaf -/

theorem Expr.exists_word_of_alone {condition : List Char}
    (alone : read condition = .ok (.leaf ⟨0, Text.byteSize condition⟩)) :
    Nesting.Balanced condition ∧ ∃ word rest, condition = word ++ rest ∧
      Term.IsWord word := by
  rcases read_eq_ok_iff.mp alone with ⟨terms, tiled, reads⟩
  refine ⟨tiled.balanced, ?_⟩
  generalize isLeaf : Expr.leaf ⟨0, Text.byteSize condition⟩ = expr at reads
  cases reads with
  | connect => cases isLeaf
  | single reads =>
      cases reads with
      | negation => cases isLeaf
      | @group term _ _ kind _ splits reads =>
          -- A leaf in parentheses starts behind one of them.
          subst isLeaf
          have inside := Term.split_eq_ok_iff.mp splits
          have placed := tiled.laid.placed term List.mem_cons_self
          rcases (reads.leaves_within (placed.laid_inside kind inside) _
            (List.mem_singleton_self _)).1 with ⟨first, member, lower⟩
          have bounds := placed.wellFormed.bounds_inside kind inside member
          simp only at lower
          omega
      | @run first others kind _ =>
          simp only [Expr.leaf.injEq, Span.mk.injEq] at isLeaf
          rcases tiled.exists_head with ⟨gap, rest, rfl, _, size, _⟩
          have isWord :=
            ((tiled.wellFormed List.mem_cons_self).of_ne_group (by simp [kind])).2
          have noGap : gap = [] := Text.eq_nil_of_byteSize (by omega)
          subst noGap
          exact ⟨first.text, rest, rfl, isWord⟩

namespace Subject

variable {text name gap inside after : List Char}

theorem IsName.balanced (isName : IsName name after) : Nesting.Balanced name := by
  have isPlain := Name.isPlain ⟨name, isName.nonempty, isName.named⟩
  exact Term.balanced_of_plain isPlain

theorem IsName.exists_head (isName : IsName name after) :
    ∃ first ∈ (name ++ after).head?, isSymbolCharacter first = false := by
  rcases List.exists_cons_of_ne_nil isName.nonempty with ⟨first, others, rfl⟩
  have named := isNameCharacter_iff.mp (isName.named first List.mem_cons_self)
  exact ⟨first, rfl, named.2.1⟩

theorem Reads.exists_head {subject : Subject} {subjectText : List Char}
    (reads : Reads text subject subjectText after) :
    ∃ first ∈ text.head?, isSymbolCharacter first = false := by
  cases reads with
  | quoted isPart => exact ⟨'"', Text.head?_of_quotedPart? isPart, by decide⟩
  | path isName _ => exact isName.exists_head
  | call isName _ _ => exact isName.exists_head

theorem IsName.exists_untilClosing? (isName : IsName name (gap ++ '(' :: inside))
    (blank : Text.allBlank gap = true)
    (balanced : Nesting.Balanced (name ++ (gap ++ '(' :: inside))) :
    ∃ arguments after, outside.untilClosing? inside = some (arguments, after) := by
  have gapBalanced : Nesting.Balanced gap := (Term.tiled_of_allBlank blank 0).balanced
  rw [Nesting.balanced_append_iff isName.balanced,
    Nesting.balanced_append_iff gapBalanced] at balanced
  exact Nesting.exists_untilClosing? balanced

theorem exists_reads {first : Char} {rest : List Char}
    (balanced : Nesting.Balanced (first :: rest))
    (starts : Term.isDelimiter first = false)
    (noSymbol : isSymbolCharacter first = false) :
    ∃ subject subjectText after, Reads (first :: rest) subject subjectText after := by
  by_cases isQuote : first = '"'
  · rcases balanced.exists_quotedPart? (congrArg some isQuote) with ⟨part, after, isPart⟩
    exact ⟨_, _, _, .quoted isPart⟩
  simp only [Term.isDelimiter, Bool.or_eq_false_iff, beq_eq_false_iff_ne] at starts
  have startsName : isNameCharacter first = true :=
    isNameCharacter_iff.mpr
      ⟨starts.1.1, noSymbol, by simp [isQuote, starts.1.2, starts.2]⟩
  rcases nameSpan : (first :: rest).span isNameCharacter with ⟨name, after⟩
  rcases Text.span_eq_iff.mp nameSpan with ⟨equal, named, stops⟩
  have nonempty : name ≠ [] := by
    rintro rfl
    have stopped := stops first (by rw [← List.nil_append after, ← equal]; rfl)
    rw [startsName] at stopped
    cases stopped
  have isName : IsName name after := ⟨nonempty, named, stops⟩
  rcases Text.exists_trimStart after with ⟨gap, afterEq, blank, _⟩
  rw [equal] at balanced ⊢
  by_cases isCall : (Text.trimStart after).head? = some '('
  · rcases List.head?_eq_some_iff.mp isCall with ⟨inside, insideEq⟩
    rw [insideEq] at afterEq
    subst afterEq
    rcases isName.exists_untilClosing? blank balanced with ⟨arguments, after, closed⟩
    exact ⟨_, _, _, .call isName blank closed⟩
  · exact ⟨_, _, _, .path isName isCall⟩

theorem read?_eq_none_iff {first : Char} {rest : List Char}
    (balanced : Nesting.Balanced (first :: rest))
    (starts : Term.isDelimiter first = false) :
    read? (first :: rest) = none ↔ isSymbolCharacter first = true := by
  constructor
  · intro none
    rw [← Bool.not_eq_false]
    intro noSymbol
    rcases exists_reads balanced starts noSymbol with ⟨_, _, _, reads⟩
    cases reads.read?_eq.symm.trans none
  · intro isSymbol
    cases found : read? (first :: rest) with
    | none => rfl
    | some parts =>
        rcases (reads_of_read? found).exists_head with ⟨_, isHead, noSymbol⟩
        cases isHead
        rw [isSymbol] at noSymbol
        cases noSymbol

end Subject

/-! ## Agreement -/

open Term.Splitter (Closes depth?)

/-- What the readers of a condition find at the start of a leaf, and what the splitters
counted that come to it. -/
structure Expr.ReadersAgree (source : List Char) (span : Span) (condition : List Char) :
    Prop where
  own : ∃ start before, Expr.Reaches source span condition start before ∧
    depth? start before = some 0
  quotation : condition.head? = some '"' →
    ∃ part after, Text.quotedPart? condition = some (part, after)
  /-- The parenthesis behind a name is closed where each splitter is back at its level
  before the leaf. -/
  call : ∀ name gap inside, condition = name ++ (gap ++ '(' :: inside) →
    Subject.IsName name (gap ++ '(' :: inside) → Text.allBlank gap = true →
    ∃ arguments after, outside.untilClosing? inside = some (arguments, after) ∧
      inside = arguments ++ ')' :: after ∧
      ∀ start before, Expr.Reaches source span condition start before →
        ∃ level, depth? start before = some level ∧
          Closes start level (before ++ (name ++ gap)) arguments
  subject : Subject.read? condition = none ↔
    ∃ first ∈ condition.head?, isSymbolCharacter first = true

theorem Expr.readersAgree_of_reaches {source before condition : List Char} {span : Span}
    {start : Nat} (balanced : Nesting.Balanced source)
    (reaches : Expr.Reaches source span condition start before)
    (closed : Nesting.Balanced before)
    (alone : read condition = .ok (.leaf ⟨0, Text.byteSize condition⟩)) :
    ReadersAgree source span condition := by
  rcases exists_word_of_alone alone with ⟨conditionBalanced, word, rest, rfl, isWord⟩
  constructor
  case own => exact ⟨start, before, reaches, Term.Splitter.depth?_of_scan? closed⟩
  case quotation => exact conditionBalanced.exists_quotedPart?
  case call =>
    intro name gap inside equal isName blank
    rw [equal] at conditionBalanced
    rcases isName.exists_untilClosing? blank conditionBalanced with
      ⟨arguments, after, found⟩
    have split := Nesting.untilClosing?_split found
    refine ⟨arguments, after, found, split.1, fun start' before' reaches' => ?_⟩
    rcases reaches.exists_level closed balanced reaches' with ⟨level, scanned⟩
    have gapBalanced : Nesting.Balanced gap := (Term.tiled_of_allBlank blank 0).balanced
    have comes :
        outside.scan? (before' ++ (name ++ gap)) = some (outside.lower level) := by
      rw [Nesting.scan?_append, scanned, Option.bind_some,
        Nesting.scan?_lower (isName.balanced.append gapBalanced)]
    exact ⟨level, Term.Splitter.depth?_of_scan? scanned,
      Term.Splitter.closes_of_balanced comes split.2⟩
  case subject =>
    rcases List.exists_cons_of_ne_nil isWord.nonempty with ⟨first, others, rfl⟩
    rw [List.cons_append] at conditionBalanced ⊢
    rw [Subject.read?_eq_none_iff conditionBalanced (isWord.head_not_delimiter rfl)]
    simp

/-- The readers of quotes and parentheses agree. A quoted part is the shortest beginning
of a text that can be unquoted, and what was quoted can be. At a leaf of an expression
the readers of a condition come to an end where the splitters do, so that a leaf without
a subject starts with a symbol. -/
theorem readers_agree :
    (∀ text, ((Text.unquote? text).isSome ↔ Text.quotedPart? text = some (text, [])) ∧
      ∀ part after, Text.quotedPart? text = some (part, after) ↔
        text = part ++ after ∧ Text.IsFirstQuotation part text) ∧
    (∀ text, Text.unquote? (Text.quote text) = some text) ∧
    ∀ source expr, Expr.read source = .ok expr → ∀ span ∈ expr.leaves,
      ∃ condition, span.slice? source = some condition ∧
        Expr.ReadersAgree source span condition := by
  refine ⟨fun text =>
    ⟨Text.quotedPart?_eq_self_iff.symm, fun _ _ => Text.quotedPart?_eq_some_iff⟩,
    Text.unquote?_quote, ?_⟩
  intro source expr result span member
  rcases Expr.read_eq_ok_iff.mp result with ⟨terms, tiled, reads⟩
  rcases reads.leaves_reached .whole tiled List.infix_rfl span member with
    ⟨condition, start, before, reaches, closed, alone⟩
  exact ⟨condition, reaches.covers.slice?_eq,
    Expr.readersAgree_of_reaches tiled.balanced reaches closed alone⟩

theorem readers_agree_of_nested_call :
    let source := "NOT (\"a)\" = 1 AND (LEN (b, \")(\") > 2 OR =x))".toList
    let expr := Expr.not (.connect .and (.leaf ⟨5, 13⟩) (.connect .or (.leaf ⟨19, 36⟩)
      (.leaf ⟨40, 42⟩)))
    Expr.read source = .ok expr ∧
      Expr.ReadersAgree source ⟨19, 36⟩ "LEN (b, \")(\") > 2".toList := by
  intro source expr
  have result : Expr.read source = .ok expr := by decide +kernel
  refine ⟨result, ?_⟩
  rcases readers_agree.2.2 source expr result ⟨19, 36⟩ (by decide) with
    ⟨condition, slice, agree⟩
  have isCall :
      Span.slice? ⟨19, 36⟩ source = some "LEN (b, \")(\") > 2".toList := by decide +kernel
  cases isCall.symm.trans slice
  exact agree

end Criteria
