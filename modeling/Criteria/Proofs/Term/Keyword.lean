import Criteria.Proofs.Term.Tiling

/-!
Keywords in any letter case. They are words, and they end also before a parenthesis.
-/

namespace Criteria

def Connective.spelling : Connective → List Char
  | .and => "AND".toList
  | .or => "OR".toList

namespace Term

open Nesting (outside)

/-- The character has no part in where terms end. -/
structure IsPlain (character : Char) : Prop where
  solid : isBlank character = false
  notOpen : character ≠ '('
  notClose : character ≠ ')'
  notQuote : character ≠ '"'

theorem toNat_toUpper (character : Char) :
    character.toUpper.val.toNat =
      if 97 ≤ character.val.toNat ∧ character.val.toNat ≤ 122 then
        character.val.toNat - 32
      else character.val.toNat := by
  have isLower_iff : (character.val ≥ 97 ∧ character.val ≤ 122) ↔
      97 ≤ character.val.toNat ∧ character.val.toNat ≤ 122 := by
    rw [ge_iff_le, UInt32.le_iff_toNat_le, UInt32.le_iff_toNat_le]
    rfl
  unfold Char.toUpper
  split
  · rename_i isLower
    have bounds := isLower_iff.mp isLower
    have difference : (character.val + ('A'.val - 'a'.val)).toNat =
        (character.val.toNat + 4294967264) % 4294967296 := UInt32.toNat_add ..
    rw [if_pos bounds]
    change (character.val + ('A'.val - 'a'.val)).toNat = _
    omega
  · rename_i notLower
    rw [if_neg (mt isLower_iff.mpr notLower)]

theorem toUpper_toUpper (character : Char) :
    character.toUpper.toUpper = character.toUpper := by
  apply Char.ext
  rw [← UInt32.toNat_inj, toNat_toUpper, toNat_toUpper]
  split
  · rw [if_neg (by omega)]
  · rfl

theorem isBlank_toUpper (character : Char) :
    isBlank character.toUpper = isBlank character := by
  rw [Bool.eq_iff_iff]
  simp only [isBlank, Bool.or_eq_true, Bool.and_eq_true, decide_eq_true_eq, beq_iff_eq,
    UInt32.le_iff_toNat_le, ← UInt32.toNat_inj, UInt32.reduceToNat, toNat_toUpper]
  split
  · omega
  · rfl

theorem IsPlain.of_toUpper {character : Char} (plain : IsPlain character.toUpper) :
    IsPlain character where
  solid := (isBlank_toUpper character).symm.trans plain.solid
  notOpen := by
    rintro rfl
    exact plain.notOpen rfl
  notClose := by
    rintro rfl
    exact plain.notClose rfl
  notQuote := by
    rintro rfl
    exact plain.notQuote rfl

theorem step?_outside_of_plain {character : Char} (plain : IsPlain character) :
    outside.step? character = some outside := by
  simp [Nesting.step?, outside, Quoting.step, plain.notOpen, plain.notClose,
    plain.notQuote]

theorem balanced_of_plain {text : List Char}
    (plain : ∀ character ∈ text, IsPlain character) :
    Nesting.Balanced text := by
  induction text with
  | nil => exact Nesting.balanced_nil
  | cons character rest induction =>
      rw [List.forall_mem_cons] at plain
      rw [Nesting.Balanced, Nesting.scan?_cons, step?_outside_of_plain plain.1]
      exact induction plain.2

theorem isWord_of_plain {text : List Char} (nonempty : text ≠ [])
    (plain : ∀ character ∈ text, IsPlain character) : IsWord text where
  nonempty := nonempty
  balanced := balanced_of_plain plain
  noGroup := by
    cases text with
    | nil => exact absurd rfl nonempty
    | cons first others =>
        intro starts
        exact (plain first List.mem_cons_self).notOpen (Option.some.inj starts)
  goesOn before next after equal _ ends := by
    have nextPlain := plain next (by simp [equal])
    rcases ends with blank | ⟨isOpen, _⟩
    · rw [nextPlain.solid] at blank
      cases blank
    · exact nextPlain.notOpen isOpen

/-! ## The three keywords -/

theorem isPlain_of_mem_keywords {character : Char}
    (member : character ∈ "ANDORNOT".toList) :
    IsPlain character := by
  have letters : "ANDORNOT".toList = ['A', 'N', 'D', 'O', 'R', 'N', 'O', 'T'] := rfl
  simp only [letters, List.mem_cons, List.not_mem_nil, or_false] at member
  rcases member with rfl | rfl | rfl | rfl | rfl | rfl | rfl | rfl <;>
    exact ⟨by decide, by decide, by decide, by decide⟩

theorem upper_mem_of_keyword? {text : List Char} {kind : Kind}
    (keyword : keyword? text = some kind) :
    Text.upper text ∈ ["AND".toList, "OR".toList, "NOT".toList] := by
  simp only [keyword?, Text.caseless_iff] at keyword
  split at keyword
  · rename_i isAnd
    rw [isAnd]
    exact List.mem_cons_self
  split at keyword
  · rename_i isOr
    rw [isOr]
    exact List.mem_cons_of_mem _ List.mem_cons_self
  split at keyword
  · rename_i isNot
    rw [isNot]
    exact List.mem_cons_of_mem _ (List.mem_cons_of_mem _ List.mem_cons_self)
  · cases keyword

theorem toUpper_mem_of_keyword? {text : List Char} {kind : Kind} {character : Char}
    (keyword : keyword? text = some kind) (member : character ∈ text) :
    character.toUpper ∈ "ANDORNOT".toList := by
  have inUpper : character.toUpper ∈ Text.upper text := List.mem_map_of_mem member
  have spelled := upper_mem_of_keyword? keyword
  simp only [List.mem_cons, List.not_mem_nil, or_false] at spelled
  rcases spelled with isAnd | isOr | isNot
  · rw [isAnd] at inUpper
    exact List.mem_append_left "ORNOT".toList inUpper
  · rw [isOr] at inUpper
    exact List.mem_append_right "AND".toList (List.mem_append_left "NOT".toList inUpper)
  · rw [isNot] at inUpper
    exact List.mem_append_right "ANDOR".toList inUpper

theorem isPlain_of_keyword? {text : List Char} {kind : Kind}
    (keyword : keyword? text = some kind) :
    ∀ character ∈ text, IsPlain character :=
  fun _ member =>
    .of_toUpper (isPlain_of_mem_keywords (toUpper_mem_of_keyword? keyword member))

theorem isWord_of_keyword? {text : List Char} {kind : Kind}
    (keyword : keyword? text = some kind) :
    IsWord text := by
  apply isWord_of_plain _ (isPlain_of_keyword? keyword)
  rintro rfl
  cases keyword

theorem keyword?_eq_none {text : List Char} {character : Char} (member : character ∈ text)
    (other : character.toUpper ∉ "ANDORNOT".toList) : keyword? text = none := by
  cases keyword : keyword? text with
  | none => rfl
  | some kind => exact absurd (toUpper_mem_of_keyword? keyword member) other

theorem keyword?_of_negation {text : List Char}
    (spelled : Text.upper text = "NOT".toList) :
    keyword? text = some .negation := by
  simp only [keyword?, Text.caseless_iff, spelled]
  rfl

theorem keyword?_of_connective {text : List Char} {connective : Connective}
    (spelled : Text.upper text = connective.spelling) :
    keyword? text = some (.connective connective) := by
  simp only [keyword?, Text.caseless_iff, spelled]
  cases connective <;> rfl

theorem isBlank_of_head_gap {gap rest : List Char} (blank : Text.allBlank gap = true)
    (nonempty : gap ≠ []) : ∀ next ∈ (gap ++ rest).head?, isBlank next = true := by
  intro next isHead
  cases gap with
  | nil => exact absurd rfl nonempty
  | cons first others =>
      cases isHead
      exact List.all_eq_true.mp blank next List.mem_cons_self

theorem Tiled.keyword {start : Nat} {word gap rest : List Char} {kind : Kind}
    {terms : List Term} (keyword : keyword? word = some kind)
    (blank : Text.allBlank gap = true) (apart : gap ≠ [] ∨ rest.head? = some '(')
    (tiled : Tiled (start + Text.byteSize word + Text.byteSize gap) rest terms) :
    Tiled start (word ++ (gap ++ rest)) (⟨kind, start, word⟩ :: terms) := by
  have isKind : wordKind word = kind := by
    rw [wordKind, keyword]
    rfl
  rw [← isKind]
  apply Tiled.word (isWord_of_keyword? keyword) _ (tiled.blanks blank)
  intro next isHead
  by_cases touches : gap = []
  · subst touches
    cases (apart.resolve_left (absurd rfl)).symm.trans isHead
    exact .inr ⟨rfl, by rw [keyword]; rfl⟩
  · exact .inl (isBlank_of_head_gap blank touches next isHead)

end Term

end Criteria
