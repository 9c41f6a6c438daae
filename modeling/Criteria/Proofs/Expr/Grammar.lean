import Criteria.Expr.Parser
import Criteria.Proofs.Term.Enclosure

/-!
The grammar of expressions, and what reading makes of a text that is not in it.

`Reads` relates the terms of a level to its tree, and `Faults` relates them to the error
of the first fault from the left. Everything to the left of a fault is in the grammar,
so a level has no second first fault; `reads_or_faults` says that it has one if it is
not in the grammar itself.
-/

namespace Criteria

namespace Level

open Term (Tiled)

/-! ## The grammar -/

/-- What the terms make up: one operand, or a chain of operands with connectives
between them. -/
inductive Form where
  | operand
  | chain

inductive Reads : Form → List Term → Expr → Prop
  | negation {term : Term} {rest : List Term} {expr : Expr} (kind : term.kind = .negation)
      (reads : Reads .operand rest expr) : Reads .operand (term :: rest) (.not expr)
  | group {term : Term} {terms : List Term} {expr : Expr} (kind : term.kind = .group)
      (filled : Text.allBlank term.inner = false)
      (splits : Term.split (term.start + 1) term.inner = .ok terms)
      (reads : Reads .chain terms expr) : Reads .operand [term] expr
  | run {first : Term} {others : List Term} (kind : first.kind = .word)
      (joined : ∀ term ∈ others, ∀ connective, term.kind ≠ .connective connective) :
      Reads .operand (first :: others) (.leaf ⟨first.start, (others.getLastD first).stop⟩)
  | single {terms : List Term} {expr : Expr} (reads : Reads .operand terms expr) :
      Reads .chain terms expr
  | connect {before after : List Term} {term : Term} {connective : Connective}
      {left right : Expr}
      (reads : Reads .chain before left) (kind : term.kind = .connective connective)
      (readsNext : Reads .operand after right) :
      Reads .chain (before ++ term :: after) (.connect connective left right)

/-! ## Faults -/

/-- The first fault of the level with the text `level`, of whose terms only the ones
from an operand on are given, or all of them. -/
inductive Faults : Form → (level : String) → List Term → EvaluationError → Prop
  | missing {level : String} : Faults .operand level [] (.incomplete level)
  | connective {level : String} {term : Term} {rest : List Term} {connective : Connective}
      (kind : term.kind = .connective connective) :
      Faults .operand level (term :: rest) (.incomplete level)
  | negation {level : String} {term : Term} {rest : List Term} {error : EvaluationError}
      (kind : term.kind = .negation) (faults : Faults .operand level rest error) :
      Faults .operand level (term :: rest) error
  | emptyGroup {level : String} {term : Term} {rest : List Term}
      (kind : term.kind = .group) (blank : Text.allBlank term.inner = true) :
      Faults .operand level (term :: rest) (.empty level)
  | insideGroup {level : String} {term : Term} {rest terms : List Term}
      {error : EvaluationError}
      (kind : term.kind = .group) (filled : Text.allBlank term.inner = false)
      (splits : Term.split (term.start + 1) term.inner = .ok terms)
      (faults : Faults .chain (String.ofList (Text.trim term.inner)) terms error) :
      Faults .operand level (term :: rest) error
  | afterGroup {level : String} {term next : Term} {rest : List Term} {expr : Expr}
      (reads : Reads .operand [term] expr) (kind : term.kind = .group)
      (unconnected : ∀ connective, next.kind ≠ .connective connective) :
      Faults .operand level (term :: next :: rest) (.incomplete level)
  | first {level : String} {terms : List Term} {error : EvaluationError}
      (faults : Faults .operand level terms error) : Faults .chain level terms error
  | later {level : String} {before after : List Term} {term : Term}
      {connective : Connective}
      {left : Expr} {error : EvaluationError} (reads : Reads .chain before left)
      (kind : term.kind = .connective connective)
      (faults : Faults .operand level after error) :
      Faults .chain level (before ++ term :: after) error

theorem Reads.ne_nil {form : Form} {terms : List Term} {expr : Expr}
    (reads : Reads form terms expr) : terms ≠ [] := by
  induction reads with
  | single _ induction => exact induction
  | connect => simp
  | _ => exact List.cons_ne_nil _ _

theorem Reads.unconnected {terms : List Term} {expr : Expr}
    (reads : Reads .operand terms expr) :
    ∀ term ∈ terms, ∀ connective, term.kind ≠ .connective connective := by
  generalize isOperand : Form.operand = form at reads
  induction reads with
  | negation kind _ induction => simpa [kind] using induction isOperand
  | group kind => simp [kind]
  | run kind joined => simpa [kind] using joined
  | single => cases isOperand
  | connect => cases isOperand

/-! ## Segments of a level -/

theorem segments_of_unconnected {terms : List Term}
    (unconnected : ∀ term ∈ terms, ∀ connective, term.kind ≠ .connective connective) :
    segments terms = (terms, []) := by
  induction terms with
  | nil => rfl
  | cons head rest induction =>
      rw [List.forall_mem_cons] at unconnected
      rw [segments, induction unconnected.2]
      cases kind : head.kind with
      | connective connective => exact absurd kind (unconnected.1 connective)
      | _ => rfl

theorem segments_append {before after : List Term} {term : Term} {connective : Connective}
    (kind : term.kind = .connective connective) :
    segments (before ++ term :: after) =
      ((segments before).1,
        (segments before).2 ++ (connective, (segments after).1) ::
          (segments after).2) := by
  induction before with
  | nil => simp [segments, kind]
  | cons head rest induction =>
      rw [List.cons_append, segments, induction, segments]
      cases head.kind <;> rfl

theorem segments_cons {head : Term} {rest : List Term} {kind : Term.Kind}
    (isKind : head.kind = kind)
    (unconnected : ∀ connective, kind ≠ .connective connective) :
    (segments (head :: rest)).1 = head :: (segments rest).1 := by
  rw [segments, isKind]
  cases kind with
  | connective connective => exact absurd rfl (unconnected connective)
  | _ => rfl

theorem exists_after_segment (terms : List Term) :
    ∃ after, terms = (segments terms).1 ++ after ∧
      (∀ term ∈ (segments terms).1, ∀ connective, term.kind ≠ .connective connective) ∧
      ∀ next ∈ after.head?, ∃ connective, next.kind = .connective connective := by
  induction terms with
  | nil => exact ⟨[], by simp [segments]⟩
  | cons head rest induction =>
      by_cases connected : ∃ connective, head.kind = .connective connective
      · rcases connected with ⟨connective, kind⟩
        exact ⟨head :: rest, by simp [segments, kind]⟩
      · have unconnected := not_exists.mp connected
        rcases induction with ⟨after, equal, others, stops⟩
        refine ⟨after, ?_, ?_, stops⟩
        · rw [segments_cons rfl unconnected, List.cons_append, ← equal]
        · rw [segments_cons rfl unconnected, List.forall_mem_cons]
          exact ⟨unconnected, others⟩

theorem ne_nil_of_filled {start : Nat} {text : List Char} {terms : List Term}
    (splits : Term.split start text = .ok terms) (filled : Text.allBlank text = false) :
    terms ≠ [] := by
  rintro rfl
  have blank := (Term.split_eq_ok_iff.mp splits).allBlank_of_nil
  rw [filled] at blank
  cases blank

/-! ## Reading without the bookkeeping of members

`segmentResult` and `chainResult` are the two halves of `Level.read`, with the groups
read as parts of an expression. -/

variable {expression : List Char} {level : String}

def segmentResult (expression : List Char) (level : String) (segment : List Term) :
    Except EvaluationError Expr :=
  readOperand level segment fun group _ =>
    Expr.readPart expression (group.start + 1) group.inner

def join (expression : List Char) (level : String) (left : Expr)
    (segment : Connective × List Term) : Except EvaluationError Expr := do
  let right ← segmentResult expression level segment.2
  return .connect segment.1 left right

def chainResult (expression : List Char) (level : String) (terms : List Term) :
    Except EvaluationError Expr := do
  let first ← segmentResult expression level (segments terms).1
  (segments terms).2.foldlM (join expression level) first

theorem read_eq_chainResult {terms : List Term} (nonempty : terms ≠ []) :
    (read level terms fun group _ =>
      Expr.readPart expression (group.start + 1) group.inner) =
      chainResult expression level terms := by
  rw [read, if_neg (by simpa using nonempty), chainResult]
  apply bind_congr
  intro first
  rw [List.foldlM_subtype (g := join expression level), List.unattach_attach]
  intro left segment member
  rfl

theorem readPart_eq_chainResult {start : Nat} {text : List Char} {terms : List Term}
    (splits : Term.split start text = .ok terms) (nonempty : terms ≠ []) :
    Expr.readPart expression start text =
      chainResult expression (String.ofList (Text.trim text)) terms := by
  rw [Expr.readPart]
  split
  · rename_i fault faulty
    cases splits.symm.trans faulty
  · rename_i found splits'
    cases splits.symm.trans splits'
    exact read_eq_chainResult nonempty

theorem segmentResult_negation {term : Term} {rest : List Term}
    (kind : term.kind = .negation) :
    segmentResult expression level (term :: rest) =
      (segmentResult expression level rest).map .not := by
  rw [segmentResult, readOperand, kind]
  rfl

theorem segmentResult_run {first : Term} {others : List Term}
    (kind : first.kind = .word) :
    segmentResult expression level (first :: others) =
      .ok (.leaf ⟨first.start, (others.getLastD first).stop⟩) := by
  rw [segmentResult, readOperand, kind]

theorem segmentResult_emptyGroup {term : Term} {rest : List Term}
    (kind : term.kind = .group) (blank : Text.allBlank term.inner = true) :
    segmentResult expression level (term :: rest) = .error (.empty level) := by
  rw [segmentResult, readOperand, kind]
  exact if_pos blank

theorem segmentResult_filledGroup {term : Term} {rest : List Term}
    (kind : term.kind = .group) (filled : Text.allBlank term.inner = false) :
    segmentResult expression level (term :: rest) =
      Expr.readPart expression (term.start + 1) term.inner >>= fun inner =>
        if rest.isEmpty then .ok inner else .error (.incomplete level) := by
  rw [segmentResult, readOperand, kind]
  simp only [filled, Bool.false_eq_true, if_false]
  rfl

theorem segmentResult_group {term : Term} {rest terms : List Term}
    (kind : term.kind = .group) (filled : Text.allBlank term.inner = false)
    (splits : Term.split (term.start + 1) term.inner = .ok terms)
    (nonempty : terms ≠ []) :
    segmentResult expression level (term :: rest) =
      chainResult expression (String.ofList (Text.trim term.inner)) terms >>= fun inner =>
        if rest.isEmpty then .ok inner else .error (.incomplete level) := by
  rw [segmentResult_filledGroup kind filled, readPart_eq_chainResult splits nonempty]

theorem chainResult_of_unconnected {terms : List Term}
    (unconnected : ∀ term ∈ terms, ∀ connective, term.kind ≠ .connective connective) :
    chainResult expression level terms = segmentResult expression level terms := by
  rw [chainResult, segments_of_unconnected unconnected]
  simp

theorem chainResult_append {before after : List Term} {term : Term}
    {connective : Connective} (kind : term.kind = .connective connective) :
    chainResult expression level (before ++ term :: after) =
      chainResult expression level before >>= fun left =>
        join expression level left (connective, (segments after).1) >>=
          (segments after).2.foldlM (join expression level) := by
  rw [chainResult, chainResult, segments_append kind]
  simp

/-! ## The grammar is read, and faults are reported -/

def Form.result (expression : List Char) (level : String) (terms : List Term) :
    Form → Except EvaluationError Expr
  | .operand => segmentResult expression level (segments terms).1
  | .chain => chainResult expression level terms

theorem Reads.result_eq {form : Form} {terms : List Term} {expr : Expr}
    (reads : Reads form terms expr) (expression : List Char) (level : String) :
    form.result expression level terms = .ok expr := by
  induction reads generalizing level with
  | negation kind _ induction =>
      rw [Form.result, segments_cons kind (by simp), segmentResult_negation kind]
      exact congrArg (Except.map Expr.not) (induction level)
  | group kind filled splits reads induction =>
      rw [Form.result, segments_cons kind (by simp),
        segmentResult_group kind filled splits (ne_nil_of_filled splits filled)]
      exact congrArg (· >>= _) (induction _)
  | run kind joined =>
      rw [Form.result, segments_cons kind (by simp), segments_of_unconnected joined]
      exact segmentResult_run kind
  | single reads induction =>
      have result := induction level
      rw [Form.result, segments_of_unconnected reads.unconnected] at result
      rw [Form.result, chainResult_of_unconnected reads.unconnected]
      exact result
  | connect reads kind readsNext induction inductionNext =>
      have left : chainResult expression level _ = .ok _ := induction level
      have right : segmentResult expression level _ = .ok _ := inductionNext level
      rw [Form.result, chainResult_append kind, left,
        segments_of_unconnected readsNext.unconnected]
      rw [segments_of_unconnected readsNext.unconnected] at right
      simp only [join, right]
      rfl

theorem Faults.result_eq {form : Form} {level : String} {terms : List Term}
    {error : EvaluationError} (faults : Faults form level terms error)
    (expression : List Char) :
    form.result expression level terms = .error error := by
  induction faults with
  | missing => rfl
  | connective kind =>
      rw [Form.result, segments, kind]
      rfl
  | negation kind _ induction =>
      rw [Form.result, segments_cons kind (by simp), segmentResult_negation kind]
      exact congrArg (Except.map Expr.not) induction
  | emptyGroup kind blank =>
      rw [Form.result, segments_cons kind (by simp)]
      exact segmentResult_emptyGroup kind blank
  | insideGroup kind filled splits faults induction =>
      rw [Form.result, segments_cons kind (by simp),
        segmentResult_group kind filled splits (ne_nil_of_filled splits filled)]
      exact congrArg (· >>= _) induction
  | afterGroup reads kind unconnected =>
      rw [Form.result, segments_cons kind (by simp), segments_cons rfl unconnected]
      cases reads with
      | negation isNegation => cases kind.symm.trans isNegation
      | run isWord => cases kind.symm.trans isWord
      | group _ filled splits reads =>
          rw [segmentResult_group kind filled splits (ne_nil_of_filled splits filled)]
          exact congrArg (· >>= _) (reads.result_eq expression _)
  | first faults induction =>
      rw [Form.result, chainResult]
      exact congrArg (· >>= _) induction
  | later reads kind faults induction =>
      rename_i level before after term connective left error
      have leftResult : chainResult expression level before = .ok left :=
        reads.result_eq expression level
      have rightResult : segmentResult expression level (segments after).1 =
          .error error :=
        induction
      rw [Form.result, chainResult_append kind, leftResult]
      simp only [join, rightResult]
      rfl

/-! ## Every level is in the grammar or has a first fault -/

def Settled (group : Term) : Prop :=
  ∃ terms, Term.split (group.start + 1) group.inner = .ok terms ∧
    ((∃ expr, Reads .chain terms expr) ∨
      ∃ error, Faults .chain (String.ofList (Text.trim group.inner)) terms error)

private theorem operand_reads_or_faults (level : String) {terms : List Term}
    (settled : ∀ term ∈ terms, term.kind = .group → Settled term) :
    (∃ front rest expr, terms = front ++ rest ∧ Reads .operand front expr ∧
      ∀ next ∈ rest.head?, ∃ connective, next.kind = .connective connective) ∨
      ∃ error, Faults .operand level terms error := by
  induction terms with
  | nil => exact .inr ⟨_, .missing⟩
  | cons term rest induction =>
      rw [List.forall_mem_cons] at settled
      cases kind : term.kind with
      | connective connective => exact .inr ⟨_, .connective kind⟩
      | negation =>
          rcases induction settled.2 with ⟨front, after, expr, rfl, reads, stops⟩
            | ⟨error, faults⟩
          · exact .inl ⟨term :: front, after, _, rfl, .negation kind reads, stops⟩
          · exact .inr ⟨error, .negation kind faults⟩
      | group =>
          cases blank : Text.allBlank term.inner with
          | true => exact .inr ⟨_, .emptyGroup kind blank⟩
          | false =>
              rcases settled.1 kind with ⟨terms, splits, ⟨expr, reads⟩ | ⟨error, faults⟩⟩
              · have group := Reads.group kind blank splits reads
                cases rest with
                | nil => exact .inl ⟨[term], [], expr, rfl, group, by simp⟩
                | cons next others =>
                    by_cases connected : ∃ connective, next.kind = .connective connective
                    · have stops : ∀ other ∈ (next :: others).head?,
                          ∃ connective, other.kind = .connective connective := by
                        simpa using connected
                      exact .inl ⟨[term], next :: others, expr, rfl, group, stops⟩
                    · exact .inr ⟨_, .afterGroup group kind (not_exists.mp connected)⟩
              · exact .inr ⟨error, .insideGroup kind blank splits faults⟩
      | word =>
          rcases exists_after_segment rest with ⟨after, equal, joined, stops⟩
          exact .inl ⟨term :: (segments rest).1, after, _, congrArg (term :: ·) equal,
            .run kind joined, stops⟩

/-- What may stand before an operand: nothing, or a chain and a connective. -/
private inductive Leads : List Term → Prop
  | start : Leads []
  | connective {before : List Term} {term : Term} {connective : Connective} {left : Expr}
      (reads : Reads .chain before left) (kind : term.kind = .connective connective) :
      Leads (before ++ [term])

private theorem Leads.reads {before front : List Term} {expr : Expr}
    (leads : Leads before) (reads : Reads .operand front expr) :
    ∃ whole, Reads .chain (before ++ front) whole := by
  cases leads with
  | start => exact ⟨expr, .single reads⟩
  | connective left kind =>
      rw [List.append_assoc]
      exact ⟨_, .connect left kind reads⟩

private theorem Leads.faults {level : String} {before rest : List Term}
    {error : EvaluationError} (leads : Leads before)
    (faults : Faults .operand level rest error) :
    Faults .chain level (before ++ rest) error := by
  cases leads with
  | start => exact .first faults
  | connective left kind =>
      rw [List.append_assoc]
      exact .later left kind faults

private theorem chain_reads_or_faults (level : String) {before rest : List Term}
    (leads : Leads before) (settled : ∀ term ∈ rest, term.kind = .group → Settled term) :
    (∃ expr, Reads .chain (before ++ rest) expr) ∨
      ∃ error, Faults .chain level (before ++ rest) error := by
  rcases operand_reads_or_faults level settled with
    ⟨front, after, expr, equal, reads, stops⟩ | ⟨error, faults⟩
  · rcases leads.reads reads with ⟨whole, chain⟩
    cases after with
    | nil =>
        rw [equal, List.append_nil]
        exact .inl ⟨whole, chain⟩
    | cons term others =>
        -- The operand and the connective after it join what leads to the next operand.
        rcases stops term rfl with ⟨connective, kind⟩
        have shorter : others.length < rest.length := by
          simp only [equal, List.length_append, List.length_cons]
          omega
        have regrouped : before ++ rest = (before ++ front ++ [term]) ++ others := by
          simp [equal]
        rw [regrouped]
        exact chain_reads_or_faults level (.connective chain kind)
          (fun group member => settled group (by simp [equal, member]))
  · exact .inr ⟨error, leads.faults faults⟩
termination_by rest.length
decreasing_by exact shorter

theorem reads_or_faults {start : Nat} {text : List Char} {terms : List Term}
    (tiled : Tiled start text terms) (level : String) :
    (∃ expr, Reads .chain terms expr) ∨ ∃ error, Faults .chain level terms error := by
  apply chain_reads_or_faults level .start
  intro group member kind
  have shorter : group.inner.length < text.length :=
    Term.inner_length_lt (Term.split_eq_ok_iff.mpr tiled) member
  have balanced := ((tiled.wellFormed member).of_group kind).2
  rcases Term.exists_tiled_of_balanced balanced (group.start + 1) with
    ⟨inside, tiledInside⟩
  exact ⟨inside, Term.split_eq_ok_iff.mpr tiledInside, reads_or_faults tiledInside _⟩
termination_by text.length

/-! ## Reading decides the grammar -/

theorem readPart_eq_ok_iff {start : Nat} {text : List Char} {terms : List Term}
    {expr : Expr} (splits : Term.split start text = .ok terms)
    (filled : Text.allBlank text = false) :
    Expr.readPart expression start text = .ok expr ↔ Reads .chain terms expr := by
  rw [readPart_eq_chainResult splits (ne_nil_of_filled splits filled)]
  constructor
  · intro result
    rcases reads_or_faults (Term.split_eq_ok_iff.mp splits)
      (String.ofList (Text.trim text)) with
      ⟨found, reads⟩ | ⟨error, faults⟩
    · cases result.symm.trans (reads.result_eq expression _)
      exact reads
    · cases result.symm.trans (faults.result_eq expression)
  · intro reads
    exact reads.result_eq expression _

theorem readPart_eq_error_iff {start : Nat} {text : List Char} {terms : List Term}
    {error : EvaluationError} (splits : Term.split start text = .ok terms)
    (filled : Text.allBlank text = false) :
    Expr.readPart expression start text = .error error ↔
      Faults .chain (String.ofList (Text.trim text)) terms error := by
  rw [readPart_eq_chainResult splits (ne_nil_of_filled splits filled)]
  constructor
  · intro result
    rcases reads_or_faults (Term.split_eq_ok_iff.mp splits)
      (String.ofList (Text.trim text)) with
      ⟨found, reads⟩ | ⟨error, faults⟩
    · cases result.symm.trans (reads.result_eq expression _)
    · cases result.symm.trans (faults.result_eq expression)
      exact faults
  · intro faults
    exact faults.result_eq expression

end Level

/-- A text that can be split and is not blank is read exactly if its terms are in the
grammar, and then as the tree that the grammar gives to them. Otherwise its first fault
is the error. -/
theorem Expr.read_decides_grammar {source : List Char} {terms : List Term}
    (splits : Term.split 0 source = .ok terms) (filled : Text.allBlank source = false) :
    (∀ expr, Expr.read source = .ok expr ↔ Level.Reads .chain terms expr) ∧
      ∀ error, Expr.read source = .error error ↔
        Level.Faults .chain (String.ofList (Text.trim source)) terms error :=
  ⟨fun _ => Level.readPart_eq_ok_iff splits filled,
    fun _ => Level.readPart_eq_error_iff splits filled⟩

theorem Expr.read_decides_grammar_of_two_faults :
    ∃ terms, Term.split 0 " x AND ( NOT (y) z\t) OR".toList = .ok terms ∧
      Text.allBlank " x AND ( NOT (y) z\t) OR".toList = false ∧
      Level.Faults .chain "x AND ( NOT (y) z\t) OR" terms (.incomplete "NOT (y) z") := by
  have splits : Term.split 0 " x AND ( NOT (y) z\t) OR".toList =
      .ok [⟨.word, 1, "x".toList⟩, ⟨.connective .and, 3, "AND".toList⟩,
        ⟨.group, 7, "( NOT (y) z\t)".toList⟩, ⟨.connective .or, 21, "OR".toList⟩] := rfl
  have filled : Text.allBlank " x AND ( NOT (y) z\t) OR".toList = false := by
    decide +kernel
  have result :
      Expr.read " x AND ( NOT (y) z\t) OR".toList = .error (.incomplete "NOT (y) z") := by
    decide +kernel
  have level : String.ofList (Text.trim " x AND ( NOT (y) z\t) OR".toList) =
      "x AND ( NOT (y) z\t) OR" := by decide +kernel
  have faults := ((read_decides_grammar splits filled).2 _).mp result
  rw [level] at faults
  exact ⟨_, splits, filled, faults⟩

end Criteria
