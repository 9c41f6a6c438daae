import Criteria.Proofs.Expr.Formula
import Criteria.Proofs.Expr.Part
import Criteria.Proofs.Expr.Shift
import Criteria.Proofs.Term.Keyword
import Criteria.Proofs.Text.Span

/-!
The ways to write a formula, each of which is read as that formula.

Keywords are written in any letter case, with blanks around them or parentheses next to
them, and operands in any number of parentheses. Where a text is read from, and what
stands before and after it, is left open here, so that the proof can go from the parts
of a text to the whole.
-/

namespace Criteria

open Level (Form Reads)
open Term (Tiled)
open Nesting (parenthesize)

/-- The ways to write a formula, as an operand or as a chain. If `closed`, the text ends
with a parenthesis around an operand, so that a keyword may follow immediately. The
parenthesis at the end of a condition may end a word, which would go on. -/
inductive Written : Form → (closed : Bool) → Formula → List Char → Prop
  | leaf {condition : List Char} : Written .operand false (.leaf condition) condition
  | negation {closed : Bool} {inner : Formula} {keyword gap text : List Char}
      (spelled : Text.upper keyword = "NOT".toList) (blank : Text.allBlank gap = true)
      (apart : gap ≠ [] ∨ text.head? = some '(')
      (written : Written .operand closed inner text) :
      Written .operand closed (.not inner) (keyword ++ gap ++ text)
  | parenthesized {closed : Bool} {formula : Formula} {before text after : List Char}
      (blankBefore : Text.allBlank before = true)
      (blankAfter : Text.allBlank after = true)
      (written : Written .chain closed formula text) :
      Written .operand true formula (parenthesize (before ++ text ++ after))
  | single {closed : Bool} {formula : Formula} {text : List Char}
      (written : Written .operand closed formula text) :
        Written .chain closed formula text
  | connect {closedLeft closed : Bool} {connective : Connective} {left right : Formula}
      {textLeft gapLeft keyword gapRight textRight : List Char}
      (writtenLeft : Written .chain closedLeft left textLeft)
      (blankLeft : Text.allBlank gapLeft = true)
      (apartLeft : gapLeft ≠ [] ∨ closedLeft = true)
      (spelled : Text.upper keyword = connective.spelling)
      (blankRight : Text.allBlank gapRight = true)
      (apartRight : gapRight ≠ [] ∨ textRight.head? = some '(')
      (writtenRight : Written .operand closed right textRight) :
      Written .chain closed (.connect connective left right)
        (textLeft ++ gapLeft ++ keyword ++ gapRight ++ textRight)

/-- Every formula can be written, with its connectives in parentheses for instance. -/
theorem exists_written (formula : Formula) :
    ∃ closed text, Written .operand closed formula text := by
  have space : Text.allBlank [' '] = true := by decide
  have apart : [' '] ≠ [] := List.cons_ne_nil _ _
  induction formula with
  | leaf condition => exact ⟨false, condition, .leaf⟩
  | not inner induction =>
      rcases induction with ⟨closed, text, written⟩
      have spelled : Text.upper "NOT".toList = "NOT".toList := rfl
      exact ⟨closed, _, .negation spelled space (.inl apart) written⟩
  | connect connective left right leftInduction rightInduction =>
      rcases leftInduction with ⟨closedLeft, textLeft, writtenLeft⟩
      rcases rightInduction with ⟨closedRight, textRight, writtenRight⟩
      have spelled : Text.upper connective.spelling = connective.spelling := by
        cases connective <;> rfl
      have chain := Written.connect (.single writtenLeft) space (.inl apart) spelled space
        (.inl apart) writtenRight
      exact ⟨true, _, .parenthesized space space chain⟩

/-! ## What a written formula is read as -/

/-- The text, which starts at the byte offset `start` of some larger text, is read as
this tree, and the tree says there what the formula says. -/
structure Stands (form : Form) (closed : Bool) (formula : Formula) (text : List Char)
    (start : Nat) (terms : List Term) (expr : Expr) : Prop where
  reads : Reads form terms expr
  tiled : ∀ rest others, (closed = false → ∀ next ∈ rest.head?, isBlank next = true) →
    Tiled (start + Text.byteSize text) rest others →
      Tiled start (text ++ rest) (terms ++ others)
  formula : ∀ before after, Text.byteSize before = start →
    expr.formula? (before ++ text ++ after) = some formula

theorem Stands.tiled_between {form : Form} {closed : Bool} {formula : Formula}
    {text before after : List Char} {start : Nat} {terms : List Term} {expr : Expr}
    (blankBefore : Text.allBlank before = true) (blankAfter : Text.allBlank after = true)
    (stands : Stands form closed formula text (start + Text.byteSize before) terms expr) :
    Tiled start (before ++ text ++ after) terms := by
  have stops : ∀ next ∈ after.head?, isBlank next = true := fun next isHead =>
    List.all_eq_true.mp blankAfter next (List.mem_of_mem_head? isHead)
  have tiled :=
    stands.tiled after [] (fun _ => stops) (Term.tiled_of_allBlank blankAfter _)
  rw [List.append_nil] at tiled
  rw [List.append_assoc]
  exact tiled.blanks blankBefore

theorem exists_stands_of_leaf {condition : List Char}
    (isLeaf : Expr.read condition = .ok (.leaf ⟨0, Text.byteSize condition⟩))
    (start : Nat) :
    ∃ terms expr, Stands .operand false (.leaf condition) condition start terms expr := by
  rcases Expr.read_eq_ok_iff.mp isLeaf with ⟨terms, tiled, reads⟩
  cases reads with
  | single reads =>
      have moved := tiled.shift start
      refine ⟨_, _, reads.shift start, fun rest others apart next =>
        moved.append (apart rfl) next, fun before after size => ?_⟩
      have covers : Span.Covers ⟨start + 0, start + Text.byteSize condition⟩
          (before ++ condition ++ after) condition :=
            ⟨before, after, rfl, size.symm, by rw [size]⟩
      rw [Expr.shift, Expr.formula?, Span.shift, covers.slice?_eq]
      rfl

private theorem apart_append {gap text : List Char}
    (apart : gap ≠ [] ∨ text.head? = some '(') (rest : List Char) :
    gap ≠ [] ∨ (text ++ rest).head? = some '(' := by
  rcases apart with apart | isOpen
  · exact .inl apart
  · rw [List.head?_append, isOpen]
    exact .inr rfl

theorem Stands.negation {closed : Bool} {inner : Formula} {keyword gap text : List Char}
    {start : Nat} {terms : List Term} {expr : Expr}
    (spelled : Text.upper keyword = "NOT".toList) (blank : Text.allBlank gap = true)
    (apart : gap ≠ [] ∨ text.head? = some '(')
    (stands : Stands .operand closed inner text
      (start + Text.byteSize keyword + Text.byteSize gap) terms expr) :
    Stands .operand closed (.not inner) (keyword ++ gap ++ text) start
      (⟨.negation, start, keyword⟩ :: terms) (.not expr) where
  reads := .negation rfl stands.reads
  tiled rest others stops next := by
    simp only [Text.byteSize_append, ← Nat.add_assoc] at next
    have whole :=
      (stands.tiled rest others stops next).keyword (Term.keyword?_of_negation spelled)
      blank (apart_append apart rest)
    simpa only [List.append_assoc, List.cons_append] using whole
  formula before after size := by
    have formula := stands.formula (before ++ keyword ++ gap) after (by
      simp only [Text.byteSize_append, size])
    simp only [List.append_assoc] at formula
    simp only [Expr.formula?, List.append_assoc, formula]
    rfl

theorem Stands.parenthesized {closed : Bool} {formula : Formula}
    {before text after : List Char} {start : Nat} {terms : List Term} {expr : Expr}
    (blankBefore : Text.allBlank before = true) (blankAfter : Text.allBlank after = true)
    (stands : Stands .chain closed formula text
      (start + 1 + Text.byteSize before) terms expr) :
    Stands .operand true formula (parenthesize (before ++ text ++ after)) start
      [⟨.group, start, parenthesize (before ++ text ++ after)⟩] expr := by
  have tiled := stands.tiled_between blankBefore blankAfter
  have filled := Expr.filled_of_reads tiled stands.reads
  have splits := Term.split_eq_ok_iff.mpr tiled
  rw [← Term.inner_parenthesize .group start (before ++ text ++ after)] at filled splits
  refine ⟨.group rfl filled splits stands.reads, ?_, ?_⟩
  · intro rest others _ next
    exact .group tiled.balanced next
  · intro front back size
    have formula := stands.formula (front ++ '(' :: before) (after ++ ')' :: back) (by
      rw [Text.byteSize_append, size, Text.byteSize, ← Nat.add_assoc]
      rfl)
    simpa [parenthesize] using formula

theorem Stands.single {closed : Bool} {formula : Formula} {text : List Char} {start : Nat}
    {terms : List Term} {expr : Expr}
    (stands : Stands .operand closed formula text start terms expr) :
    Stands .chain closed formula text start terms expr :=
  ⟨.single stands.reads, stands.tiled, stands.formula⟩

theorem Stands.connect {closedLeft closed : Bool} {connective : Connective}
    {left right : Formula} {textLeft gapLeft keyword gapRight textRight : List Char}
    {start : Nat} {termsLeft termsRight : List Term} {exprLeft exprRight : Expr}
    (blankLeft : Text.allBlank gapLeft = true)
    (apartLeft : gapLeft ≠ [] ∨ closedLeft = true)
    (spelled : Text.upper keyword = connective.spelling)
    (blankRight : Text.allBlank gapRight = true)
    (apartRight : gapRight ≠ [] ∨ textRight.head? = some '(')
    (standsLeft : Stands .chain closedLeft left textLeft start termsLeft exprLeft)
    (standsRight :
      Stands .operand closed right textRight
    (start + Text.byteSize textLeft + Text.byteSize gapLeft + Text.byteSize keyword +
        Text.byteSize gapRight) termsRight exprRight) :
    Stands .chain closed (.connect connective left right)
      (textLeft ++ gapLeft ++ keyword ++ gapRight ++ textRight) start
      (termsLeft ++
        ⟨.connective connective, start + Text.byteSize textLeft + Text.byteSize gapLeft,
        keyword⟩ :: termsRight)
      (.connect connective exprLeft exprRight) where
  reads := .connect standsLeft.reads rfl standsRight.reads
  tiled rest others stops next := by
    -- From the right to the left, as each part has to know what follows it.
    simp only [Text.byteSize_append, ← Nat.add_assoc] at next
    have fromKeyword := (standsRight.tiled rest others stops next).keyword
      (Term.keyword?_of_connective spelled) blankRight (apart_append apartRight rest)
    have stopsLeft : closedLeft = false → ∀ next ∈ (gapLeft ++ (keyword ++ (gapRight ++
        (textRight ++ rest)))).head?, isBlank next = true := by
      intro isOpen
      apply Term.isBlank_of_head_gap blankLeft
      exact apartLeft.resolve_right (by simp [isOpen])
    have whole := standsLeft.tiled _ _ stopsLeft (fromKeyword.blanks blankLeft)
    simpa only [List.append_assoc, List.cons_append] using whole
  formula before after size := by
    have leftFormula := standsLeft.formula before
      (gapLeft ++ keyword ++ gapRight ++ textRight ++ after) size
    have rightFormula :=
      standsRight.formula (before ++ textLeft ++ gapLeft ++ keyword ++ gapRight)
      after (by simp only [Text.byteSize_append, size])
    simp only [List.append_assoc] at leftFormula rightFormula
    simp only [Expr.formula?, List.append_assoc, leftFormula, rightFormula]
    rfl

theorem Written.exists_stands {form : Form} {closed : Bool} {formula : Formula}
    {text : List Char} (written : Written form closed formula text)
    (leaves : ∀ condition ∈ formula.leaves,
      Expr.read condition = .ok (.leaf ⟨0, Text.byteSize condition⟩))
    (start : Nat) :
    ∃ terms expr, Stands form closed formula text start terms expr := by
  induction written generalizing start with
  | leaf => exact exists_stands_of_leaf (leaves _ (List.mem_singleton_self _)) start
  | negation spelled blank apart _ induction =>
      rcases induction leaves _ with ⟨terms, expr, stands⟩
      exact ⟨_, _, stands.negation spelled blank apart⟩
  | parenthesized blankBefore blankAfter _ induction =>
      rcases induction leaves _ with ⟨terms, expr, stands⟩
      exact ⟨_, _, stands.parenthesized blankBefore blankAfter⟩
  | single _ induction =>
      rcases induction leaves start with ⟨terms, expr, stands⟩
      exact ⟨terms, expr, stands.single⟩
  | connect _ blankLeft apartLeft spelled blankRight apartRight _
      induction inductionNext =>
      rw [Formula.leaves, List.forall_mem_append] at leaves
      rcases induction leaves.1 start with ⟨termsLeft, exprLeft, standsLeft⟩
      rcases inductionNext leaves.2 _ with ⟨termsRight, exprRight, standsRight⟩
      exact ⟨_, _,
        standsLeft.connect blankLeft apartLeft spelled blankRight apartRight standsRight⟩

/-- A written formula, with blanks around it, is read as that formula. -/
theorem Written.exists_read {closed : Bool} {formula : Formula}
    {text before after : List Char} (written : Written .chain closed formula text)
    (leaves : ∀ condition ∈ formula.leaves,
      Expr.read condition = .ok (.leaf ⟨0, Text.byteSize condition⟩))
    (blankBefore : Text.allBlank before = true)
    (blankAfter : Text.allBlank after = true) :
    ∃ expr, Expr.read (before ++ text ++ after) = .ok expr ∧
      expr.formula? (before ++ text ++ after) = some formula := by
  rcases written.exists_stands leaves (0 + Text.byteSize before) with
    ⟨terms, expr, stands⟩
  have tiled := stands.tiled_between blankBefore blankAfter
  exact ⟨expr, Expr.read_eq_ok_iff.mpr ⟨terms, tiled, stands.reads⟩,
    stands.formula before after (Nat.zero_add _).symm⟩

end Criteria
