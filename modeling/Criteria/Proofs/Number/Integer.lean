import Criteria.Number.Basic
import Criteria.Proofs.Condition.Literal

/-!
Integers in decimal digits.

The digits of an integer that one of the two kinds can hold are read back as that
integer, and nothing around them takes part of them for structure. Integers of either
kind are in their own order.
-/

namespace Criteria.Number

open text (intText)
open Term (IsPlain)

/-! ## Characters -/

theorem isDigit_of_mem_toDigits {value : Nat} {character : Char}
    (member : character ∈ Nat.toDigits 10 value) : character.isDigit = true :=
  Nat.isDigit_of_mem_toDigits (by decide) (by decide) member

theorem mem_digits {character : Char} (isDigit : character.isDigit = true) :
    character ∈ "0123456789".toList := by
  have points : ∀ point < 58, 48 ≤ point →
      Char.ofNat point ∈ "0123456789".toList := by decide
  rcases Char.isDigit_iff_toNat.mp isDigit with ⟨lower, upper⟩
  rw [← Char.ofNat_toNat character]
  exact points character.toNat (Nat.lt_succ_of_le upper) lower

theorem mem_of_mem_intText {value : Int} {character : Char}
    (member : character ∈ intText value) :
    character ∈ "-0123456789".toList := by
  have digits {magnitude : Nat} (member : character ∈ Nat.toDigits 10 magnitude) :
      character ∈ "-0123456789".toList :=
    List.mem_cons_of_mem '-' (mem_digits (isDigit_of_mem_toDigits member))
  unfold intText at member
  split at member
  · rcases List.mem_cons.mp member with rfl | member
    · exact List.mem_cons_self
    · exact digits member
  · exact digits member

theorem intText_ne_nil (value : Int) : intText value ≠ [] := by
  unfold intText
  split
  · exact List.cons_ne_nil _ _
  · exact Nat.toDigits_ne_nil

theorem literal_intText (value : Int) : Literal (intText value) (intText value) := by
  have characters : ("-0123456789".toList.all fun character =>
      !isBlank character && !isSymbolCharacter character &&
        !"()\"".toList.contains character &&
        !"ANDORNOT".toList.contains character.toUpper) = true := by decide
  have each {character : Char} (member : character ∈ intText value) :=
    List.all_eq_true.mp characters character (mem_of_mem_intText member)
  simp only [Bool.and_eq_true, Bool.not_eq_true', ← Bool.not_eq_true (List.contains _ _),
    List.contains_iff_mem] at each
  rcases List.exists_mem_of_ne_nil _ (intText_ne_nil value) with ⟨some, someMember⟩
  refine .bare (intText_ne_nil value) ?_ ?_
    (Term.keyword?_eq_none someMember (each someMember).2)
  · intro character member
    rcases each member with ⟨⟨⟨solid, _⟩, notBracket⟩, _⟩
    constructor
    case solid => exact solid
    all_goals
      rintro rfl
      exact notBracket (by decide)
  · intro first isHead
    exact (each (List.mem_of_mem_head? isHead)).1.1.2

/-! ## Reading back -/

theorem unsigned?_toDigits (value : Nat) :
    Decimal.readNat?.unsigned? (Nat.toDigits 10 value) = some value := by
  have digits : (Nat.toDigits 10 value).all Char.isDigit = true :=
    List.all_eq_true.mpr fun _ => isDigit_of_mem_toDigits
  rw [Decimal.readNat?.unsigned?, Decimal.digitsValue, Nat.ofDigitChars_ten_toDigits]
  simp [digits]

theorem ne_cons_of_digit {text rest : List Char} {sign : Char}
    (starts : ∀ first ∈ text.head?, first.isDigit = true)
    (notDigit : sign.isDigit = false) :
    text ≠ sign :: rest := by
  rintro rfl
  rw [starts sign rfl] at notDigit
  cases notDigit

theorem readInt?_of_digit {text : List Char}
    (starts : ∀ first ∈ text.head?, first.isDigit = true) :
    Decimal.readInt? text =
      (Decimal.readNat?.unsigned? text).map fun value : Nat => (value : Int) := by
  unfold Decimal.readInt? Decimal.readNat?
  split
  · exact absurd rfl (ne_cons_of_digit starts (by decide))
  · split
    · exact absurd rfl (ne_cons_of_digit starts (by decide))
    · cases Decimal.readNat?.unsigned? text <;> rfl

theorem readInt?_toDigits (value : Nat) :
    Decimal.readInt? (Nat.toDigits 10 value) = some (value : Int) := by
  rw [readInt?_of_digit fun _ isHead =>
    isDigit_of_mem_toDigits (List.mem_of_mem_head? isHead), unsigned?_toDigits,
    Option.map_some]

theorem readInt?_intText (value : Int) :
    Decimal.readInt? (intText value) = some value := by
  unfold intText
  split
  · have magnitude : -(value.natAbs : Int) = value := by omega
    rw [Decimal.readInt?, unsigned?_toDigits]
    exact congrArg some magnitude
  · have magnitude : (value.natAbs : Int) = value := by omega
    rw [readInt?_toDigits, magnitude]

theorem intText_injective {value other : Int} (same : intText value = intText other) :
    value = other := by
  have read := readInt?_intText value
  rw [same, readInt?_intText] at read
  exact (Option.some.inj read).symm

theorem read?_intText {value : Int} (holds : Holds value) :
    read? (intText value) = some (ofInt value) := by
  rw [read?, (literal_intText value).isTrimmed.trim_eq]
  simp only [readInt?_intText, Option.filter_some, holds, decide_true, if_true]

/-! ## Order -/

theorem order?_of_integer? {left right : Number} {value other : Int}
    (isInteger : left.integer? = some value) (isInteger' : right.integer? = some other) :
    left.order? right = some (compare value other) := by
  rw [order?, isInteger, isInteger']

end Criteria.Number
