import Mathlib.Data.List.Forall2
import Criteria.Proofs.Term.Keyword
import Criteria.Proofs.Text.Quoted
import Criteria.Proofs.Text.Span

/-!
Terms of two texts that differ in one quoted text.

The quoted text lies in one term of each text. These two terms are of the same kind and
differ in the quoted text only, and all other terms are the same, but for the offsets
behind the quoted text.
-/

namespace Criteria

open Nesting (outside parenthesize Balanced)
open Text (quote byteSize)

/-- The quotation of one text in the place of that of another one. -/
structure Exchange where
  place : Nat
  old : List Char
  new : List Char

namespace Exchange

def offset (exchange : Exchange) (old : Nat) : Nat :=
  if old ≤ exchange.place then old
  else old - byteSize (quote exchange.old) + byteSize (quote exchange.new)

def span (exchange : Exchange) (span : Span) : Span :=
  ⟨exchange.offset span.start, exchange.offset span.stop⟩

/-- The offsets do not enclose any part of the quotation. -/
def Apart (exchange : Exchange) (start stop : Nat) : Prop :=
  stop ≤ exchange.place ∨ exchange.place + byteSize (quote exchange.old) ≤ start

variable {exchange : Exchange}

theorem byteSize_quote_pos (text : List Char) : 0 < byteSize (quote text) :=
  Text.byteSize_pos (List.cons_ne_nil _ _)

theorem offset_of_le {old : Nat} (before : old ≤ exchange.place) :
    exchange.offset old = old :=
  if_pos before

theorem offset_of_ge {old : Nat}
    (behind : exchange.place + byteSize (quote exchange.old) ≤ old) :
    exchange.offset old = old - byteSize (quote exchange.old) + byteSize
      (quote exchange.new) := by
  have positive := byteSize_quote_pos exchange.old
  exact if_neg (by omega)

theorem Apart.mono {start stop start' stop' : Nat} (apart : exchange.Apart start stop)
    (lower : start ≤ start') (upper : stop' ≤ stop) : exchange.Apart start' stop' :=
  apart.imp (Nat.le_trans upper) (Nat.le_trans · lower)

theorem offset_add {start size : Nat} (apart : exchange.Apart start (start + size)) :
    exchange.offset (start + size) = exchange.offset start + size := by
  rcases apart with before | behind
  · rw [offset_of_le before, offset_of_le (Nat.le_trans (Nat.le_add_right ..) before)]
  · rw [offset_of_ge (Nat.le_trans behind (Nat.le_add_right ..)), offset_of_ge behind]
    omega

end Exchange

/-! ## Texts -/

namespace Nesting

theorem scan?_append_quote {nesting : Nesting} {left : List Char}
    (plain : nesting.quoting.after left = .plain) (text right : List Char) :
    nesting.scan? (left ++ quote text ++ right) = nesting.scan? (left ++ right) := by
  rw [List.append_assoc, scan?_append, scan?_append]
  cases scanned : nesting.scan? left with
  | none => rfl
  | some last =>
      have lastPlain : last.quoting = .plain := (quoting_of_scan? scanned).trans plain
      rw [Option.bind_some, Option.bind_some, scan?_append, scan?_quote lastPlain]
      rfl

theorem Balanced.exchange {left right old : List Char}
    (balanced : Balanced (left ++ quote old ++ right))
    (plain : Quoting.plain.after left = .plain) (new : List Char) :
    Balanced (left ++ quote new ++ right) := by
  unfold Balanced at *
  rw [scan?_append_quote plain] at balanced ⊢
  exact balanced

end Nesting

theorem Text.quote_mem (left text right : List Char) :
    '"' ∈ left ++ quote text ++ right := by
  simp [quote]

theorem Text.head?_append_quote (left text text' right : List Char) :
    (left ++ quote text ++ right).head? = (left ++ quote text' ++ right).head? := by
  cases left <;> rfl

theorem Text.allBlank_quote (left text right : List Char) :
    allBlank (left ++ quote text ++ right) = false := by
  simp [allBlank, quote, isBlank]

theorem Nesting.inside_of_parenthesize {inner left right text : List Char}
    (equal : parenthesize inner = left ++ quote text ++ right) :
    ∃ before after, left = '(' :: before ∧ right = after ++ [')'] ∧
      inner = before ++ quote text ++ after := by
  rw [parenthesize, List.cons_append] at equal
  cases left with
  | nil => cases equal
  | cons head before =>
      rw [List.cons_append, List.cons_append, List.cons.injEq] at equal
      rcases equal with ⟨rfl, equal⟩
      rcases List.eq_nil_or_concat right with rfl | ⟨after, last, rfl⟩
      · rw [quote, List.append_nil, ← List.append_assoc] at equal
        cases (List.append_inj' equal rfl).2
      · rw [List.concat_eq_append, ← List.append_assoc] at equal
        have parts := List.append_inj' equal rfl
        cases parts.2
        exact ⟨before, after, rfl, List.concat_eq_append .., parts.1⟩

namespace Term

theorem keyword?_eq_none_of_quote (left text right : List Char) :
    keyword? (left ++ quote text ++ right) = none :=
  keyword?_eq_none (Text.quote_mem left text right) (by decide)

theorem EndsBefore.exchange {left right old : List Char} {next : Char}
    (ends : EndsBefore (left ++ quote old ++ right) next) (new : List Char) :
    EndsBefore (left ++ quote new ++ right) next := by
  rcases ends with blank | ⟨_, keyword⟩
  · exact .inl blank
  · rw [keyword?_eq_none_of_quote] at keyword
    cases keyword

theorem IsWord.exchange {left right old : List Char}
    (isWord : IsWord (left ++ quote old ++ right))
    (plain : Quoting.plain.after left = .plain) (new : List Char) :
    IsWord (left ++ quote new ++ right) where
  nonempty := by simp [quote]
  balanced := isWord.balanced.exchange plain new
  noGroup := by
    have noGroup := isWord.noGroup
    cases left with
    | nil => simp [quote]
    | cons head others => exact noGroup
  goesOn before next after equal balanced ends := by
    rcases Quoting.outside_quote plain equal balanced.after_eq_plain with
      ⟨between, rfl, restEq⟩ | ⟨between, rfl, rfl⟩
    · cases between with
      | nil =>
          cases restEq
          simp [EndsBefore, isBlank] at ends
      | cons first others =>
          cases restEq
          exact isWord.goesOn before next (others ++ quote old ++ right)
            (by simp) balanced ends
    · exact isWord.goesOn _ next after (by simp) (balanced.exchange plain old)
        (ends.exchange old)

theorem WellFormed.exchange {kind : Kind} {start : Nat} {left right old : List Char}
    (wellFormed : WellFormed ⟨kind, start, left ++ quote old ++ right⟩)
    (plain : Quoting.plain.after left = .plain) (new : List Char) :
    WellFormed ⟨kind, start, left ++ quote new ++ right⟩ := by
  by_cases isGroup : kind = .group
  · subst isGroup
    have group := wellFormed.of_group rfl
    rcases Nesting.inside_of_parenthesize group.1.symm with
      ⟨before, after, rfl, rfl, innerEq⟩
    have balanced := group.2
    rw [innerEq] at balanced
    have regrouped : '(' :: before ++ quote new ++ (after ++ [')']) =
        parenthesize (before ++ quote new ++ after) := by
      simp [parenthesize]
    rw [regrouped]
    exact .group (balanced.exchange plain new)
  · have word := wellFormed.of_ne_group isGroup
    have isWord : wordKind (left ++ quote new ++ right) = kind := by
      refine Eq.trans ?_ word.1.symm
      rw [wordKind, wordKind, keyword?_eq_none_of_quote, keyword?_eq_none_of_quote]
    rw [← isWord]
    exact .word (word.2.exchange plain new)

/-! ## Terms -/

/-- What becomes of a term: it is the same behind the quotation or before it, or it
holds the quotation. -/
inductive Exchanged (exchange : Exchange) : Term → Term → Prop
  | apart {kind : Kind} {start : Nat} {text : List Char}
      (apart : exchange.Apart start (start + byteSize text)) :
      Exchanged exchange ⟨kind, start, text⟩ ⟨kind, exchange.offset start, text⟩
  | holds {kind : Kind} {start : Nat} {left right : List Char}
      (plain : Quoting.plain.after left = .plain)
      (place : start + byteSize left = exchange.place) :
      Exchanged exchange ⟨kind, start, left ++ quote exchange.old ++ right⟩
        ⟨kind, start, left ++ quote exchange.new ++ right⟩

variable {exchange : Exchange} {term term' : Term}

theorem Exchanged.kind_eq (exchanged : Exchanged exchange term term') :
    term'.kind = term.kind := by
  cases exchanged <;> rfl

theorem Exchanged.start_eq (exchanged : Exchanged exchange term term') :
    term'.start = exchange.offset term.start := by
  cases exchanged with
  | apart => rfl
  | holds _ place => exact (Exchange.offset_of_le (by simp only; omega)).symm

theorem Exchanged.stop_eq (exchanged : Exchanged exchange term term') :
    term'.stop = exchange.offset term.stop := by
  cases exchanged with
  | apart apart => exact (Exchange.offset_add apart).symm
  | holds _ place =>
      simp only [stop, Text.byteSize_append]
      rw [Exchange.offset_of_ge (by omega)]
      omega

theorem Exchanged.start_outside (exchanged : Exchanged exchange term term') :
    exchange.Apart term.start term.start := by
  cases exchanged with
  | apart apart => exact apart.mono (Nat.le_refl _) (Nat.le_add_right ..)
  | holds _ place => exact .inl (by simp only; omega)

theorem Exchanged.stop_outside (exchanged : Exchanged exchange term term') :
    exchange.Apart term.stop term.stop := by
  cases exchanged with
  | apart apart => exact apart.mono (Nat.le_add_right ..) (Nat.le_refl _)
  | holds _ place =>
      refine .inr ?_
      simp only [stop, Text.byteSize_append]
      omega

theorem Tiled.exists_exchanged_of_apart {start : Nat} {text : List Char}
    {terms : List Term} (tiled : Tiled start text terms)
    (apart : exchange.Apart start (start + byteSize text)) :
    ∃ terms', Tiled (exchange.offset start) text terms' ∧
      List.Forall₂ (Exchanged exchange) terms terms' := by
  induction tiled with
  | nil => exact ⟨[], .nil, .nil⟩
  | blank blank _ induction =>
      rw [byteSize, ← Nat.add_assoc] at apart
      rcases induction (apart.mono (Nat.le_add_right ..) (Nat.le_refl _)) with
        ⟨terms', tiled, all⟩
      rw [Exchange.offset_add (apart.mono (Nat.le_refl _) (Nat.le_add_right ..))] at tiled
      exact ⟨terms', .blank blank tiled, all⟩
  | @term term rest terms wellFormed ends _ induction =>
      rw [Text.byteSize_append, ← Nat.add_assoc] at apart
      rcases induction (apart.mono (Nat.le_add_right ..) (Nat.le_refl _)) with
        ⟨terms', tiled, all⟩
      have exchanged :
          Exchanged exchange term { term with start := exchange.offset term.start } :=
        .apart (apart.mono (Nat.le_refl _) (Nat.le_add_right ..))
      rw [← exchanged.stop_eq] at tiled
      exact ⟨_, .term (wellFormed.relocate _) ends tiled, .cons exchanged all⟩

theorem Tiled.exists_exchanged_before {rest : List Char} {terms terms' : List Term}
    (wellFormed : term.WellFormed)
    (ends : term.kind ≠ .group → ∀ next ∈ rest.head?, EndsBefore term.text next)
    (before : term.stop ≤ exchange.place) (tiled : Tiled term.stop rest terms')
    (all : List.Forall₂ (Exchanged exchange) terms terms') :
    ∃ terms', Tiled term.start (term.text ++ rest) terms' ∧
      List.Forall₂ (Exchanged exchange) (term :: terms) terms' := by
  have exchanged : Exchanged exchange term
      { term with start := exchange.offset term.start } := .apart (.inl before)
  rw [Exchange.offset_of_le (Nat.le_trans (Nat.le_add_right ..) before)] at exchanged
  exact ⟨term :: terms', .term wellFormed ends tiled, .cons exchanged all⟩

theorem Tiled.exists_exchanged_holding {kind : Kind} {start : Nat}
    {left between rest : List Char} {terms : List Term}
    (wellFormed : WellFormed ⟨kind, start, left ++ quote exchange.old ++ between⟩)
    (ends : kind ≠ .group → ∀ next ∈ rest.head?,
      EndsBefore (left ++ quote exchange.old ++ between) next)
    (tiled : Tiled (stop ⟨kind, start, left ++ quote exchange.old ++ between⟩) rest terms)
    (plain : Quoting.plain.after left = .plain)
    (place : start + byteSize left = exchange.place) :
    ∃ terms', Tiled start (left ++ quote exchange.new ++ between ++ rest) terms' ∧
      List.Forall₂ (Exchanged exchange)
        (⟨kind, start, left ++ quote exchange.old ++ between⟩ :: terms) terms' := by
  have exchanged :
      Exchanged exchange ⟨kind, start, left ++ quote exchange.old ++ between⟩
        ⟨kind, start, left ++ quote exchange.new ++ between⟩ := .holds plain place
  have behind : exchange.place + byteSize (quote exchange.old) ≤
      start + byteSize (left ++ quote exchange.old ++ between) := by
    simp only [Text.byteSize_append]
    omega
  rcases tiled.exists_exchanged_of_apart (.inr behind) with ⟨terms', tiled', all⟩
  rw [← exchanged.stop_eq] at tiled'
  refine ⟨_, .term (wellFormed.exchange plain exchange.new) ?_ tiled',
    .cons exchanged all⟩
  intro notGroup next isHead
  exact (ends notGroup next isHead).exchange exchange.new

theorem Tiled.exists_exchanged {start : Nat} {left right : List Char} {terms : List Term}
    (tiled : Tiled start (left ++ quote exchange.old ++ right) terms)
    (plain : Quoting.plain.after left = .plain)
    (place : start + byteSize left = exchange.place) :
    ∃ terms', Tiled start (left ++ quote exchange.new ++ right) terms' ∧
      List.Forall₂ (Exchanged exchange) terms terms' := by
  generalize textEq : left ++ quote exchange.old ++ right = text at tiled
  induction tiled generalizing left with
  | nil => simp [quote] at textEq
  | @blank start character rest terms blank _ induction =>
      cases left with
      | nil =>
          cases textEq
          cases blank
      | cons head others =>
          rw [List.cons_append, List.cons_append, List.cons.injEq] at textEq
          rcases textEq with ⟨rfl, restEq⟩
          have notQuote : head ≠ '"' := by
            rintro rfl
            cases blank
          rw [Quoting.after_cons, Quoting.step_of_plain notQuote] at plain
          rw [byteSize, ← Nat.add_assoc] at place
          rcases induction plain place restEq with ⟨terms', tiled, all⟩
          exact ⟨terms', .blank blank tiled, all⟩
  | @term term rest terms wellFormed ends tiled induction =>
      have closed := wellFormed.balanced.after_eq_plain
      rcases Quoting.outside_quote plain textEq closed with ⟨between, rfl, restEq⟩ |
        ⟨between, termEq, rfl⟩
      · rw [Quoting.after_append, closed] at plain
        rw [Text.byteSize_append, ← Nat.add_assoc] at place
        rcases induction plain place restEq.symm with ⟨terms', tiled, all⟩
        rw [List.append_assoc term.text, List.append_assoc term.text]
        refine exists_exchanged_before wellFormed ?_ ?_ tiled all
        · intro notGroup next isHead
          rw [← Text.head?_append_quote _ exchange.old, ← restEq] at isHead
          exact ends notGroup next isHead
        · rw [← place]
          exact Nat.le_add_right ..
      · rcases term with ⟨kind, start, text⟩
        simp only at termEq place
        subst termEq
        rw [← List.append_assoc]
        exact exists_exchanged_holding wellFormed ends tiled plain place

/-! ## Groups -/

theorem Exchanged.inner_cases (exchanged : Exchanged exchange term term')
    (wellFormed : term.WellFormed) (kind : term.kind = .group) :
    (exchange.Apart term.start term.stop ∧ term'.inner = term.inner) ∨
      ∃ left right, term.inner = left ++ quote exchange.old ++ right ∧
        term'.inner = left ++ quote exchange.new ++ right ∧
        Quoting.plain.after left = .plain ∧
        term.start + 1 + byteSize left = exchange.place ∧
        term'.start = term.start := by
  have group := (wellFormed.of_group kind).1
  cases exchanged with
  | apart apart => exact .inl ⟨apart, rfl⟩
  | @holds _ start left right plain place =>
      rcases Nesting.inside_of_parenthesize group.symm with
        ⟨before, after, rfl, rfl, innerEq⟩
      have regrouped : '(' :: before ++ quote exchange.new ++ (after ++ [')']) =
          parenthesize (before ++ quote exchange.new ++ after) := by
        simp [parenthesize]
      rw [byteSize, ← Nat.add_assoc] at place
      exact .inr ⟨before, after, innerEq, by rw [regrouped, inner_parenthesize], plain,
        place, rfl⟩

theorem Exchanged.exists_inside {terms : List Term}
    (exchanged : Exchanged exchange term term') (wellFormed : term.WellFormed)
    (kind : term.kind = .group) (tiled : Tiled (term.start + 1) term.inner terms) :
    ∃ terms', Tiled (term'.start + 1) term'.inner terms' ∧
      List.Forall₂ (Exchanged exchange) terms terms' := by
  rcases exchanged.inner_cases wellFormed kind with ⟨apart, innerEq⟩ |
    ⟨left, right, innerEq, innerEq', plain, place, startEq⟩
  · have size := wellFormed.byteSize_of_group kind
    rw [stop, size] at apart
    rcases tiled.exists_exchanged_of_apart (apart.mono (by omega) (by omega)) with
      ⟨terms', tiled, all⟩
    rw [Exchange.offset_add (apart.mono (by omega) (by omega)), ← exchanged.start_eq,
      ← innerEq] at tiled
    exact ⟨terms', tiled, all⟩
  · rw [innerEq] at tiled
    rw [innerEq', startEq]
    exact tiled.exists_exchanged plain place

theorem Exchanged.allBlank_inner (exchanged : Exchanged exchange term term')
    (wellFormed : term.WellFormed) (kind : term.kind = .group) :
    Text.allBlank term'.inner = Text.allBlank term.inner := by
  rcases exchanged.inner_cases wellFormed kind with
    ⟨_, innerEq⟩ | ⟨left, right, innerEq, innerEq', _⟩
  · rw [innerEq]
  · rw [innerEq, innerEq', Text.allBlank_quote, Text.allBlank_quote]

/-! ## Lists of terms -/

theorem Exchanged.unconnected {terms terms' : List Term}
    (all : List.Forall₂ (Exchanged exchange) terms terms')
    (unconnected : ∀ term ∈ terms, ∀ connective, term.kind ≠ .connective connective) :
    ∀ term ∈ terms', ∀ connective, term.kind ≠ .connective connective := by
  induction all with
  | nil => exact unconnected
  | cons head _ induction =>
      rw [List.forall_mem_cons] at unconnected ⊢
      rw [head.kind_eq]
      exact ⟨unconnected.1, induction unconnected.2⟩

theorem Exchanged.getLastD {terms terms' : List Term}
    (exchanged : Exchanged exchange term term')
    (all : List.Forall₂ (Exchanged exchange) terms terms') :
    Exchanged exchange (terms.getLastD term) (terms'.getLastD term') := by
  induction all generalizing term term' with
  | nil => exact exchanged
  | cons head _ induction =>
      rw [List.getLastD_cons, List.getLastD_cons]
      exact induction head

theorem Exchanged.exists_append {before after terms' : List Term}
    (all : List.Forall₂ (Exchanged exchange) (before ++ after) terms') :
    ∃ before' after', terms' = before' ++ after' ∧
      List.Forall₂ (Exchanged exchange) before before' ∧
      List.Forall₂ (Exchanged exchange) after after' := by
  induction before generalizing terms' with
  | nil => exact ⟨[], terms', rfl, .nil, all⟩
  | cons head rest induction =>
      cases all with
      | cons exchanged all =>
          rcases induction all with ⟨before', after', rfl, allBefore, allAfter⟩
          exact ⟨_ :: before', after', rfl, .cons exchanged allBefore, allAfter⟩

end Term

end Criteria
