import Criteria.Text.Blank
import Criteria.Text.Span

/-!
Parts of a text at byte offsets.
-/

namespace Criteria

namespace Text

theorem byteSize_pos {text : List Char} (nonempty : text ≠ []) : 0 < byteSize text := by
  cases text with
  | nil => exact absurd rfl nonempty
  | cons character rest =>
      have positive := character.utf8Size_pos
      rw [byteSize]
      omega

theorem eq_nil_of_byteSize {text : List Char} (size : byteSize text = 0) : text = [] := by
  cases text with
  | nil => rfl
  | cons character rest =>
      have positive := byteSize_pos (List.cons_ne_nil character rest)
      omega

theorem exists_append_of_byteSize_le {before rest before' rest' : List Char}
    (equal : before ++ rest = before' ++ rest')
    (shorter : byteSize before ≤ byteSize before') :
    ∃ between, before' = before ++ between ∧ rest = between ++ rest' := by
  rcases List.append_eq_append_iff.mp equal with ⟨between, beforeEq, restEq⟩ |
    ⟨between, beforeEq, restEq⟩
  · exact ⟨between, beforeEq, restEq⟩
  · rw [beforeEq, byteSize_append] at shorter
    have none : between = [] := eq_nil_of_byteSize (by omega)
    subst none
    exact ⟨[], by simpa using beforeEq.symm, by simpa using restEq.symm⟩

theorem append_inj_of_byteSize {before rest before' rest' : List Char}
    (equal : before ++ rest = before' ++ rest')
    (size : byteSize before = byteSize before') :
    before = before' ∧ rest = rest' := by
  rcases exists_append_of_byteSize_le equal (Nat.le_of_eq size) with ⟨between, rfl, rfl⟩
  rw [byteSize_append] at size
  have none : between = [] := eq_nil_of_byteSize (by omega)
  subst none
  exact ⟨(List.append_nil _).symm, rfl⟩

theorem exists_split_of_within {before part after front back : List Char}
    {character : Char} (equal : before ++ part ++ after = front ++ character :: back)
    (lower : byteSize before ≤ byteSize front)
    (upper : byteSize front < byteSize before + byteSize part) :
    ∃ left right, part = left ++ character :: right ∧ front = before ++ left := by
  rw [List.append_assoc] at equal
  rcases exists_append_of_byteSize_le equal lower with ⟨left, rfl, restEq⟩
  rw [byteSize_append] at upper
  rcases exists_append_of_byteSize_le restEq.symm (by omega) with ⟨right, partEq, backEq⟩
  cases right with
  | nil =>
      rw [partEq, List.append_nil] at upper
      omega
  | cons head others =>
      cases backEq
      exact ⟨left, others, partEq, rfl⟩

structure IsTrimmed (text : List Char) : Prop where
  nonempty : text ≠ []
  head : ∀ character ∈ text.head?, isBlank character = false
  last : ∀ character ∈ text.getLast?, isBlank character = false

theorem isTrimmed_of_solid {text : List Char} (nonempty : text ≠ [])
    (solid : ∀ character ∈ text, isBlank character = false) : IsTrimmed text :=
  ⟨nonempty, fun character isHead => solid character (List.mem_of_mem_head? isHead),
    fun character isLast => solid character (List.mem_of_mem_getLast? isLast)⟩

theorem IsTrimmed.append {left right : List Char} (leftTrimmed : IsTrimmed left)
    (rightTrimmed : IsTrimmed right) (between : List Char) :
    IsTrimmed (left ++ between ++ right) where
  nonempty := by simp [leftTrimmed.nonempty]
  head character isHead := by
    cases left with
    | nil => exact absurd rfl leftTrimmed.nonempty
    | cons first others => exact leftTrimmed.head character isHead
  last character isLast := by
    rcases List.eq_nil_or_concat right with rfl | ⟨others, last, rfl⟩
    · exact absurd rfl rightTrimmed.nonempty
    · rw [List.concat_eq_append, ← List.append_assoc, List.getLast?_concat] at isLast
      exact rightTrimmed.last character (by simpa using isLast)

end Text

theorem Text.exists_of_dropBytes? {bytes : Nat} {text rest : List Char}
    (dropped : dropBytes? bytes text = some rest) :
    ∃ before, text = before ++ rest ∧ bytes = byteSize before := by
  induction text generalizing bytes with
  | nil =>
      cases bytes with
      | zero =>
          cases dropped
          exact ⟨[], rfl, rfl⟩
      | succ bytes => cases dropped
  | cons character text induction =>
      cases bytes with
      | zero =>
          cases dropped
          exact ⟨[], rfl, rfl⟩
      | succ bytes =>
          rw [dropBytes?] at dropped
          split at dropped
          · rename_i fits
            rcases induction dropped with ⟨before, rfl, size⟩
            refine ⟨character :: before, rfl, ?_⟩
            rw [byteSize, ← size]
            omega
          · cases dropped

theorem Text.exists_of_takeBytes? {bytes : Nat} {text part : List Char}
    (taken : takeBytes? bytes text = some part) :
    ∃ after, text = part ++ after ∧ bytes = byteSize part := by
  induction text generalizing bytes part with
  | nil =>
      cases bytes with
      | zero =>
          cases taken
          exact ⟨[], rfl, rfl⟩
      | succ bytes => cases taken
  | cons character text induction =>
      cases bytes with
      | zero =>
          cases taken
          exact ⟨character :: text, rfl, rfl⟩
      | succ bytes =>
          rw [takeBytes?] at taken
          split at taken
          · rename_i fits
            rcases Option.map_eq_some_iff.mp taken with ⟨part', inner, rfl⟩
            rcases induction inner with ⟨after, rfl, size⟩
            refine ⟨after, rfl, ?_⟩
            rw [byteSize, ← size]
            omega
          · cases taken

/-- The text stands at the span in `source`. -/
def Span.Covers (span : Span) (source text : List Char) : Prop :=
  ∃ before after, source = before ++ text ++ after ∧ span.start = Text.byteSize before ∧
    span.stop = Text.byteSize before + Text.byteSize text

theorem Span.Covers.slice?_eq {span : Span} {source text : List Char}
    (covers : span.Covers source text) : span.slice? source = some text := by
  rcases span with ⟨start, stop⟩
  rcases covers with ⟨before, after, equal, isStart, isStop⟩
  simp only at isStart isStop
  rw [equal, isStart, isStop]
  exact slice?_append before text after

theorem Span.slice?_eq_some_iff {span : Span} {source text : List Char} :
    span.slice? source = some text ↔ span.Covers source text := by
  refine ⟨fun found => ?_, Covers.slice?_eq⟩
  rcases span with ⟨start, stop⟩
  rw [slice?] at found
  split at found
  · rename_i ordered
    rcases Option.bind_eq_some_iff.mp found with ⟨rest, dropped, taken⟩
    rcases Text.exists_of_dropBytes? dropped with ⟨before, rfl, isStart⟩
    rcases Text.exists_of_takeBytes? taken with ⟨after, rfl, size⟩
    simp only at isStart size ordered
    exact ⟨before, after, by simp, isStart, by simp only; omega⟩
  · cases found

theorem Span.Covers.unique {span : Span} {source text text' : List Char}
    (covers : span.Covers source text) (covers' : span.Covers source text') :
    text = text' :=
  Option.some.inj (covers.slice?_eq.symm.trans covers'.slice?_eq)

theorem Span.Covers.part {span : Span} {source text before part after : List Char}
    (covers : span.Covers source text) (equal : text = before ++ part ++ after) :
    Span.Covers ⟨span.start + Text.byteSize before,
      span.start + Text.byteSize before + Text.byteSize part⟩ source part := by
  rcases covers with ⟨front, back, rfl, isStart, _⟩
  refine ⟨front ++ before, after ++ back, by simp [equal], ?_, ?_⟩
  · rw [isStart, Text.byteSize_append]
  · rw [isStart, Text.byteSize_append]

theorem Span.Covers.append {span : Span} {source text : List Char}
    (covers : span.Covers source text) (more : List Char) :
    span.Covers (source ++ more) text := by
  rcases covers with ⟨before, after, rfl, bounds⟩
  exact ⟨before, after ++ more, by simp, bounds⟩

end Criteria
