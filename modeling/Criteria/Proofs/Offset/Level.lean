import Criteria.Proofs.Expr.Part
import Criteria.Proofs.Offset.Terms
import Criteria.Proofs.Term.Placement
import Criteria.Proofs.Text.Blank

/-!
Reading expressions by ranges.

A level is read from left to right, operand after operand, and each reader leaves the
ranges behind its operand to the next one. The text of a group is the slice between
its parentheses. A reader never comes to the same or a larger range again, which would
be a trap, too.
-/

namespace Criteria

namespace Offset

/-! ## Readers -/

def runStop (stop : Nat) : List TermRange → Nat × List TermRange
  | [] => (stop, [])
  | range :: rest =>
      match range with
      | .connective .. => (stop, range :: rest)
      | _ => runStop range.span.stop rest

/-- Reads the operand at the start of some ranges, and returns the ranges behind it. -/
def operand (source : List Char) (level : String) (enter : Span → Checked Expr) :
    List TermRange → Checked (Expr × List TermRange)
  | [] => throw (.error (.incomplete level))
  | range :: rest =>
      match range with
      | .connective .. => throw (.error (.incomplete level))
      | .negation _ => do
          let (expr, rest) ← operand source level enter rest
          return (.not expr, rest)
      | .group _ inner => do
          let text ← slice source inner
          if (Text.trim text).isEmpty then throw (.error (.empty level))
          else do
            let expr ← enter inner
            return (expr, rest)
      | .word span =>
          let (stop, rest) := runStop span.stop rest
          return (.leaf ⟨span.start, stop⟩, rest)

def chain (source : List Char) (level : String) (enter : Span → Checked Expr)
    (left : Expr) :
    List TermRange → Checked Expr
  | [] => return left
  | range :: rest =>
      match range with
      | .connective connective _ => do
          let (right, rest') ← operand source level enter rest
          if _ : rest'.length < (range :: rest).length then
            chain source level enter (.connect connective left right) rest'
          else throw (.trap .endless)
      | _ => throw (.error (.incomplete level))
termination_by ranges => ranges.length
decreasing_by assumption

def read (source : List Char) (span : Span) : Checked Expr := do
  let ranges ← split source span
  let text ← slice source span
  let level := String.ofList (Text.trim text)
  let enter (inner : Span) : Checked Expr :=
    if _ : inner.stop - inner.start < span.stop - span.start then read source inner
    else throw (.trap .endless)
  if ranges.isEmpty then throw (.error (.empty level))
  else do
    let (first, rest) ← operand source level enter ranges
    chain source level enter first rest
termination_by span.stop - span.start
decreasing_by assumption

/-! ## The ranges behind an operand -/

theorem runStop_length_le (stop : Nat) (ranges : List TermRange) :
    (runStop stop ranges).2.length ≤ ranges.length := by
  induction ranges generalizing stop with
  | nil => exact Nat.le_refl 0
  | cons range rest induction =>
      cases range with
      | connective => exact Nat.le_refl _
      | _ => exact Nat.le_succ_of_le (induction _)

theorem length_lt_of_operand {source : List Char} {level : String}
    {enter : Span → Checked Expr} {ranges rest : List TermRange} {expr : Expr}
    (result : operand source level enter ranges = .ok (expr, rest)) :
    rest.length < ranges.length := by
  induction ranges generalizing expr rest with
  | nil => cases result
  | cons range others induction =>
      cases range with
      | connective => cases result
      | negation =>
          rcases bind_eq_ok_iff.mp result with ⟨⟨inner, rest'⟩, read, equal⟩
          cases equal
          exact Nat.lt_succ_of_lt (induction read)
      | group span inner =>
          rcases bind_eq_ok_iff.mp result with ⟨text, _, entered⟩
          split at entered
          · cases entered
          · rcases bind_eq_ok_iff.mp entered with ⟨expr', _, equal⟩
            cases equal
            exact Nat.lt_succ_self _
      | word span =>
          cases result
          exact Nat.lt_succ_of_le (runStop_length_le ..)

section Operands

variable {source : List Char} {level : String} {enter : Span → Checked Expr} {span : Span}
  {rest : List TermRange}

theorem operand_negation :
    operand source level enter (.negation span :: rest) =
      operand source level enter rest >>= fun (expr, rest) => .ok (.not expr, rest) := rfl

theorem operand_emptyGroup {inner : Span} {text : List Char}
    (covers : inner.Covers source text) (blank : Text.allBlank text = true) :
    operand source level enter (.group span inner :: rest) =
      .error (.error (.empty level)) := by
  change (slice source inner >>= fun text =>
    if (Text.trim text).isEmpty then _ else _) = _
  rw [slice_eq covers]
  exact if_pos (by rw [Text.isEmpty_trim, blank])

theorem operand_group {inner : Span} {text : List Char}
    (covers : inner.Covers source text) (filled : Text.allBlank text = false) :
    operand source level enter (.group span inner :: rest) =
      enter inner >>= fun expr => .ok (expr, rest) := by
  change (slice source inner >>= fun text =>
    if (Text.trim text).isEmpty then _ else _) = _
  rw [slice_eq covers]
  exact if_neg (by simp [Text.isEmpty_trim, filled])

theorem operand_word :
    operand source level enter (.word span :: rest) =
      .ok (.leaf ⟨span.start, (runStop span.stop rest).1⟩, (runStop span.stop rest).2) :=
  rfl

end Operands

theorem chain_connective {source : List Char} {level : String}
    {enter : Span → Checked Expr} (connective : Connective) (span : Span) (left : Expr)
    (rest : List TermRange) :
    chain source level enter left (.connective connective span :: rest) =
      operand source level enter rest >>= fun (right, rest') =>
        chain source level enter (.connect connective left right) rest' := by
  rw [chain]
  cases result : operand source level enter rest with
  | error interrupt => rfl
  | ok read =>
      have shorter := Nat.lt_succ_of_lt (length_lt_of_operand result)
      exact if_pos shorter

theorem chain_unconnected {source : List Char} {level : String}
    {enter : Span → Checked Expr} {range : TermRange}
    (unconnected : ∀ connective span, range ≠ .connective connective span) (left : Expr)
    (rest : List TermRange) :
    chain source level enter left (range :: rest) =
      .error (.error (.incomplete level)) := by
  cases range with
  | connective connective span => exact absurd rfl (unconnected connective span)
  | _ =>
      rw [chain]
      · rfl
      · exact nofun

/-! ## Readers of ranges and readers of terms -/

open Level (segments segmentResult chainResult join segments_cons segments_append)

theorem segments_connective {term : Term} {connective : Connective}
    (kind : term.kind = .connective connective) (rest : List Term) :
    segments (term :: rest) =
      ([], (connective, (segments rest).1) :: (segments rest).2) :=
  @segments_append [] rest term connective kind

theorem segments_unconnected {term : Term}
    (unconnected : ∀ connective, term.kind ≠ .connective connective) (rest : List Term) :
    segments (term :: rest) = (term :: (segments rest).1, (segments rest).2) := by
  rw [segments]
  cases kind : term.kind with
  | connective connective => exact absurd kind (unconnected connective)
  | _ => rfl

theorem runStop_eq (first : Term) (terms : List Term) :
    ∃ after, runStop first.stop (terms.map Term.range) =
        (((segments terms).1.getLastD first).stop, after.map Term.range) ∧
      segments after = ([], (segments terms).2) ∧ after <:+ terms := by
  induction terms generalizing first with
  | nil => exact ⟨[], rfl, rfl, List.suffix_rfl⟩
  | cons term rest induction =>
      by_cases connected : ∃ connective, term.kind = .connective connective
      · rcases connected with ⟨connective, kind⟩
        refine ⟨term :: rest, ?_, by rw [segments_connective kind], List.suffix_rfl⟩
        rw [segments_connective kind, List.map_cons, Term.range, kind]
        rfl
      · rcases induction term with ⟨after, ended, segmentsEq, isSuffix⟩
        have goesOn : runStop first.stop ((term :: rest).map Term.range) =
            runStop term.stop (rest.map Term.range) := by
          rw [List.map_cons, Term.range]
          cases kind : term.kind with
          | connective connective => exact absurd ⟨connective, kind⟩ connected
          | _ => rfl
        refine ⟨after, ?_, ?_, isSuffix.trans (List.suffix_cons ..)⟩
        · rw [goesOn, ended, segments_unconnected (not_exists.mp connected),
            List.getLastD_cons]
        · rw [segments_unconnected (not_exists.mp connected)]
          exact segmentsEq

/-- The groups among the terms stand in the source, and what is in them can be read. -/
def Enters (source : List Char) (enter : Span → Checked Expr) (terms : List Term) :
    Prop :=
  ∀ group ∈ terms, group.kind = .group →
    Span.Covers ⟨group.start + 1, group.stop - 1⟩ source group.inner ∧
    enter ⟨group.start + 1, group.stop - 1⟩ =
      sound (Expr.readPart source (group.start + 1) group.inner)

section Levels

variable {source : List Char} {level : String} {enter : Span → Checked Expr}

/-- Reading a level by ranges from an operand on, in which `wrap` is done to the
operand, comes to what reading by segments does. -/
private def Agrees (source : List Char) (level : String) (enter : Span → Checked Expr)
    (terms : List Term) : Prop :=
  ∀ wrap : Expr → Expr,
    (operand source level enter (terms.map Term.range) >>= fun (expr, rest) =>
      chain source level enter (wrap expr) rest) =
    sound (segmentResult source level (segments terms).1 >>= fun expr =>
      (segments terms).2.foldlM (join source level) (wrap expr))

private theorem chain_eq {terms : List Term}
    (agrees : ∀ term rest, terms = term :: rest → Agrees source level enter rest)
    (left : Expr) :
    chain source level enter left (terms.map Term.range) =
      if (segments terms).1.isEmpty then
        sound ((segments terms).2.foldlM (join source level) left)
      else .error (.error (.incomplete level)) := by
  cases terms with
  | nil =>
      rw [List.map_nil, chain]
      rfl
  | cons term rest =>
      by_cases connected : ∃ connective, term.kind = .connective connective
      · rcases connected with ⟨connective, kind⟩
        have ranged : term.range = .connective connective ⟨term.start, term.stop⟩ := by
          rw [Term.range, kind]
          rfl
        rw [segments_connective kind, List.map_cons, ranged, chain_connective,
          agrees term rest rfl (.connect connective left), if_pos List.isEmpty_nil,
          List.foldlM_cons]
        simp only [join, bind_assoc, pure_bind]
      · have unconnected := not_exists.mp connected
        rw [segments_unconnected unconnected, List.map_cons,
          chain_unconnected (Term.range_ne_connective unconnected)]
        rfl

section Cases

variable {term : Term} {rest : List Term}

private theorem agrees_connective {connective : Connective}
    (kind : term.kind = .connective connective) :
    Agrees source level enter (term :: rest) := by
  intro wrap
  rw [List.map_cons, segments_connective kind, Term.range, kind]
  rfl

private theorem agrees_negation (kind : term.kind = .negation)
    (agrees : Agrees source level enter rest) :
    Agrees source level enter (term :: rest) := by
  intro wrap
  have next := agrees fun expr => wrap (.not expr)
  rw [List.map_cons, segments_unconnected (by simp [kind]), Term.range, kind,
    Level.segmentResult_negation kind]
  refine Eq.trans ?_ (next.trans ?_)
  · change operand source level enter (.negation _ :: _) >>= _ = _
    rw [operand_negation, bind_assoc]
    rfl
  · cases segmentResult source level (segments rest).1 <;> rfl

private theorem agrees_group (kind : term.kind = .group)
    (enters : Enters source enter (term :: rest))
    (behind : ∀ term' rest', rest = term' :: rest' → Agrees source level enter rest') :
    Agrees source level enter (term :: rest) := by
  intro wrap
  rcases enters term List.mem_cons_self kind with ⟨covers, entered⟩
  rw [List.map_cons, segments_unconnected (by simp [kind]), Term.range, kind]
  change operand source level enter (.group _ _ :: _) >>= _ = _
  cases blank : Text.allBlank term.inner with
  | true =>
      rw [Level.segmentResult_emptyGroup kind blank, operand_emptyGroup covers blank]
      rfl
  | false =>
      rw [operand_group covers blank, entered, Level.segmentResult_filledGroup kind blank]
      cases Expr.readPart source (term.start + 1) term.inner with
      | error error => rfl
      | ok expr =>
          refine (chain_eq behind (wrap expr)).trans ?_
          change _ = sound
            ((if (segments rest).1.isEmpty then Except.ok expr else _) >>= _)
          split <;> rfl

private theorem agrees_word (kind : term.kind = .word)
    (behind : ∀ after, after <:+ rest → ∀ term' rest', after = term' :: rest' →
      Agrees source level enter rest') :
    Agrees source level enter (term :: rest) := by
  intro wrap
  rcases runStop_eq term rest with ⟨after, ended, segmentsEq, isSuffix⟩
  have chained := chain_eq (behind after isSuffix)
    (wrap (.leaf ⟨term.start, ((segments rest).1.getLastD term).stop⟩))
  rw [segmentsEq] at chained
  rw [List.map_cons, segments_unconnected (by simp [kind]), Term.range, kind,
    Level.segmentResult_run kind]
  change operand source level enter (.word ⟨term.start, term.stop⟩ :: _) >>= _ = _
  rw [operand_word, ended]
  exact chained

end Cases

private theorem agrees {terms : List Term} (enters : Enters source enter terms) :
    Agrees source level enter terms := by
  induction size : terms.length using Nat.strongRecOn generalizing terms with
  | ind _ induction =>
      subst size
      cases terms with
      | nil => exact fun _ => rfl
      | cons term rest =>
          have entersRest : Enters source enter rest := fun group member =>
            enters group (List.mem_cons_of_mem _ member)
          -- A run may take some of the terms, and then a chain is read from a suffix.
          have behind : ∀ after, after <:+ rest → ∀ term' rest', after = term' :: rest' →
              Agrees source level enter rest' := by
            rintro _ isSuffix term' rest' rfl
            have shorter := isSuffix.length_le
            refine induction _ ?_ (fun group member => ?_) rfl
            · simp only [List.length_cons] at shorter ⊢
              omega
            · exact entersRest group (isSuffix.subset (List.mem_cons_of_mem _ member))
          cases kind : term.kind with
          | connective connective => exact agrees_connective kind
          | negation =>
              exact agrees_negation kind (induction _ (Nat.lt_succ_self _) entersRest rfl)
          | group => exact agrees_group kind enters (behind rest List.suffix_rfl)
          | word => exact agrees_word kind behind

end Levels

/-! ## Parts of an expression -/

theorem read_eq {source text : List Char} {span : Span}
    (covers : span.Covers source text) :
    read source span = sound (Expr.readPart source span.start text) := by
  rcases span with ⟨start, stop⟩
  rw [read, split_eq covers, slice_eq covers]
  cases splits : Term.split start text with
  | error fault =>
      rw [Expr.readPart_of_fault splits]
      rfl
  | ok terms =>
      have tiled := Term.split_eq_ok_iff.mp splits
      cases terms with
      | nil =>
          rw [Expr.readPart_of_allBlank tiled.allBlank_of_nil]
          rfl
      | cons first others =>
          rw [Level.readPart_eq_chainResult splits (List.cons_ne_nil _ _)]
          have enters : Enters source (fun inner =>
              if inner.stop - inner.start < stop - start then read source inner
              else throw (.trap .endless)) (first :: others) := by
            intro group member kind
            have wellFormed := tiled.wellFormed member
            have inside := wellFormed.covers_inner kind (tiled.covers covers member)
            rcases covers with ⟨_, _, _, isStart, isStop⟩
            simp only at isStart isStop
            have shorter := Term.inner_length_lt splits member
            refine ⟨inside, ?_⟩
            have lower := tiled.start_le member
            have upper := tiled.stop_le member
            have whole : group.stop = group.start + (1 + Text.byteSize group.inner + 1) :=
              congrArg (group.start + ·) (wellFormed.byteSize_of_group kind)
            have less : group.stop - 1 - (group.start + 1) < stop - start := by omega
            exact (if_pos less).trans (read_eq inside)
          exact agrees enters id
termination_by text.length

end Offset

end Criteria
