import Criteria.Proofs.Number.Decimal
import Criteria.Proofs.Number.Integer
import Criteria.Proofs.Number.Mixed
import Criteria.Proofs.Number.Order

/-!
Reading numerals back.

The text of a decimal number is a numeral of the same value. A numeral that looks like
an integer is read as one, if it fits, and not as the float nearest to it. That makes no
difference to the order: the integer is compared as the float nearest to it, and this is
the float that the numeral would have been read as. So the text of every finite number
is read as a number that is the same.
-/

namespace Criteria

/-! ## Numerals -/

namespace Decimal

/-- The text starts with a digit and is read as a decimal number of this value. -/
structure Spells (text : List Char) (value : ℚ) : Prop where
  trimmed : Text.IsTrimmed text
  starts : ∀ first ∈ text.head?, first.isDigit = true
  reads : ∃ decimal, read? text = some decimal ∧ decimal.toRat = value

def pointed : List Char → List Char
  | [] => []
  | digit :: others => '.' :: digit :: others

theorem read?_pointed {whole fraction : List Char} (nonempty : whole ≠ [])
    (wholeDigits : ∀ digit ∈ whole, digit.isDigit = true)
    (fractionDigits : ∀ digit ∈ fraction, digit.isDigit = true) :
    read? (whole ++ pointed fraction) =
      some ⟨digitsValue (whole ++ fraction), -fraction.length⟩ := by
  have stops : ∀ next ∈ (pointed fraction).head?, next.isDigit = false := by
    cases fraction with
    | nil => exact nofun
    | cons digit others =>
        rintro _ ⟨⟩
        decide
  have isFraction : Decimal.fraction (pointed fraction) = (fraction, []) := by
    cases fraction with
    | nil => rfl
    | cons digit others =>
        exact Text.span_eq_iff.mpr ⟨(List.append_nil _).symm, fractionDigits, nofun⟩
  have isWhole :
      (whole ++ pointed fraction).span Char.isDigit = (whole, pointed fraction) :=
    Text.span_eq_iff.mpr ⟨rfl, wholeDigits, stops⟩
  have notEmpty : (whole.isEmpty && fraction.isEmpty) = false := by simp [nonempty]
  simp only [read?, isWhole, isFraction, notEmpty, Bool.false_eq_true, if_false]

theorem isTrimmed_pointed {whole fraction : List Char} (nonempty : whole ≠ [])
    (wholeDigits : ∀ digit ∈ whole, digit.isDigit = true)
    (fractionDigits : ∀ digit ∈ fraction, digit.isDigit = true) :
    Text.IsTrimmed (whole ++ pointed fraction) := by
  have digits : ("0123456789".toList.all fun digit => !isBlank digit) = true := by decide
  have solid {digit : Char} (isDigit : digit.isDigit = true) : isBlank digit = false := by
    have isSolid := List.all_eq_true.mp digits digit (Number.mem_digits isDigit)
    rwa [Bool.not_eq_true'] at isSolid
  refine Text.isTrimmed_of_solid (by simp [nonempty]) fun character member => ?_
  rcases List.mem_append.mp member with inWhole | inPointed
  · exact solid (wholeDigits character inWhole)
  · cases fraction with
    | nil => cases inPointed
    | cons digit others =>
        rcases List.mem_cons.mp inPointed with rfl | inFraction
        · decide
        · exact solid (fractionDigits character inFraction)

theorem spells_pointed {whole fraction : List Char} (nonempty : whole ≠ [])
    (wholeDigits : ∀ digit ∈ whole, digit.isDigit = true)
    (fractionDigits : ∀ digit ∈ fraction, digit.isDigit = true) :
    Spells (whole ++ pointed fraction)
      (toRat ⟨digitsValue (whole ++ fraction), -fraction.length⟩) where
  trimmed := isTrimmed_pointed nonempty wholeDigits fractionDigits
  starts := by
    intro first isHead
    rw [List.head?_append_of_ne_nil _ nonempty] at isHead
    exact wholeDigits first (List.mem_of_mem_head? isHead)
  reads := ⟨_, read?_pointed nonempty wholeDigits fractionDigits, rfl⟩

/-! ## The text of a decimal number -/

def withoutZeros (digits : List Char) : List Char :=
  (digits.reverse.dropWhile (· == '0')).reverse

theorem exists_zeros (digits : List Char) :
    ∃ zeros, digits = withoutZeros digits ++ List.replicate zeros '0' := by
  have parts := List.takeWhile_append_dropWhile (p := (· == '0')) (l := digits.reverse)
  have allZeros : ∀ digit ∈ digits.reverse.takeWhile (· == '0'), digit = '0' :=
    fun digit member => beq_iff_eq.mp (List.mem_takeWhile_imp (p := (· == '0')) member)
  refine ⟨(digits.reverse.takeWhile (· == '0')).length, ?_⟩
  rw [withoutZeros, ← List.reverse_inj, List.reverse_append, List.reverse_reverse,
    List.reverse_replicate, ← List.eq_replicate_of_mem allZeros]
  exact parts.symm

def padded (places value : Nat) : List Char :=
  List.replicate (places - (Nat.toDigits 10 value).length) '0' ++ Nat.toDigits 10 value

theorem isDigit_of_mem_padded {places value : Nat} {digit : Char}
    (member : digit ∈ padded places value) : digit.isDigit = true := by
  rcases List.mem_append.mp member with isZero | isDigit
  · rw [List.eq_of_mem_replicate isZero]
    decide
  · exact Number.isDigit_of_mem_toDigits isDigit

theorem length_padded {places value : Nat} (positive : 0 < places)
    (small : value < 10 ^ places) :
    (padded places value).length = places := by
  have few := (Nat.length_toDigits_le_iff (by decide) positive).mpr small
  simp only [padded, List.length_append, List.length_replicate]
  omega

theorem digitsValue_append (left right : List Char) :
    digitsValue (left ++ right) = 10 ^ right.length * digitsValue left +
      digitsValue right := by
  rw [digitsValue, Nat.ofDigitChars_append, Nat.ofDigitChars_eq_ofDigitChars_zero]
  rfl

theorem digitsValue_replicate (zeros : Nat) :
    digitsValue (List.replicate zeros '0') = 0 := by
  rw [digitsValue, Nat.ofDigitChars_replicate_zero, Nat.mul_zero]

theorem digitsValue_toDigits (value : Nat) :
    digitsValue (Nat.toDigits 10 value) = value :=
  Nat.ofDigitChars_ten_toDigits

theorem digitsValue_padded (places value : Nat) :
    digitsValue (padded places value) = value := by
  rw [padded, digitsValue_append, digitsValue_replicate, digitsValue_toDigits,
    Nat.mul_zero, Nat.zero_add]

theorem toRat_shift (coefficient zeros : Nat) (exponent : Int) :
    toRat ⟨10 ^ zeros * coefficient, exponent - zeros⟩ =
      toRat ⟨coefficient, exponent⟩ := by
  have power : (10 : ℚ) ^ (exponent - zeros) * 10 ^ zeros = 10 ^ exponent := by
    rw [← zpow_natCast, ← zpow_add₀ (by norm_num), sub_add_cancel]
  rw [toRat, toRat, ← power, Nat.cast_mul, Nat.cast_pow, Nat.cast_ofNat, mul_right_comm,
    mul_comm, mul_comm (10 ^ zeros : ℚ)]

def shown (coefficient places : Nat) : List Char :=
  withoutZeros (padded places (coefficient % 10 ^ places))

theorem text_of_places {coefficient places : Nat} (positive : 0 < places) :
    text ⟨coefficient, -places⟩ =
      Nat.toDigits 10 (coefficient / 10 ^ places) ++
        pointed (shown coefficient places) := by
  rw [text, if_neg (by simp only; omega)]
  simp only [neg_neg, Int.toNat_natCast, Nat.pow_eq]
  split
  · rename_i noDigits
    rw [shown, withoutZeros, padded, noDigits, pointed, List.append_nil]
  · rename_i someDigits
    rcases List.exists_cons_of_ne_nil someDigits with ⟨digit, others, parts⟩
    rw [shown, withoutZeros, padded, parts, pointed]

theorem isDigit_of_mem_shown {coefficient places : Nat} {digit : Char}
    (member : digit ∈ shown coefficient places) : digit.isDigit = true := by
  rcases exists_zeros (padded places (coefficient % 10 ^ places)) with ⟨zeros, parts⟩
  exact isDigit_of_mem_padded (parts ▸ List.mem_append_left _ member)

theorem toRat_shown {coefficient places : Nat} (positive : 0 < places) :
    toRat ⟨digitsValue
      (Nat.toDigits 10 (coefficient / 10 ^ places) ++ shown coefficient places),
      -(shown coefficient places).length⟩ = toRat ⟨coefficient, -places⟩ := by
  rcases exists_zeros (padded places (coefficient % 10 ^ places)) with ⟨zeros, parts⟩
  change _ = shown coefficient places ++ _ at parts
  have isLength :=
    length_padded positive (Nat.mod_lt coefficient (Nat.pow_pos (by decide)))
  have lengths := congrArg List.length parts
  rw [isLength, List.length_append, List.length_replicate] at lengths
  have value : digitsValue (Nat.toDigits 10 (coefficient / 10 ^ places) ++
      padded places (coefficient % 10 ^ places)) = coefficient := by
    rw [digitsValue_append, isLength, digitsValue_padded, digitsValue_toDigits]
    exact Nat.div_add_mod _ _
  rw [parts, ← List.append_assoc, digitsValue_append, digitsValue_replicate,
    List.length_replicate, Nat.add_zero] at value
  have exponent : -((shown coefficient places).length : Int) - zeros = -places := by omega
  rw [← toRat_shift _ zeros, value, exponent]

theorem spells_text (decimal : Decimal) : Spells decimal.text decimal.toRat := by
  rcases decimal with ⟨coefficient, exponent⟩
  have digits {value : Nat} : ∀ digit ∈ Nat.toDigits 10 value, digit.isDigit = true :=
    fun _ => Number.isDigit_of_mem_toDigits
  rcases lt_or_ge exponent 0 with negative | nonneg
  · rcases Int.exists_eq_neg_ofNat negative.le with ⟨places, rfl⟩
    have positive : 0 < places := by omega
    rw [text_of_places positive, ← toRat_shown positive]
    exact spells_pointed Nat.toDigits_ne_nil digits fun _ => isDigit_of_mem_shown
  · rcases Int.eq_ofNat_of_zero_le nonneg with ⟨zeros, rfl⟩
    have whole :=
      spells_pointed (@Nat.toDigits_ne_nil (10 ^ zeros * coefficient) 10) digits
      (List.forall_mem_nil _)
    rw [pointed, List.append_nil, digitsValue_toDigits] at whole
    have value := toRat_shift coefficient zeros zeros
    rw [sub_self] at value
    rw [text, if_pos nonneg, ← value, Int.toNat_natCast, Nat.pow_eq, Nat.mul_comm]
    exact whole

end Decimal

/-! ## Reading numbers -/

namespace Number

open text (intText)
open Binary64.text (sign)

variable {text : List Char} {decimal : Decimal} {magnitude : Magnitude}

theorem isNumber_of_read? {number : Number} (found : read? text = some number) :
    number.toFloat ≠ .notANumber := by
  have ofInt (value : Int) : Binary64.ofInt value ≠ .notANumber := by
    rw [Binary64.ofInt]
    cases Magnitude.ofNat? value.natAbs with
    | none => rintro ⟨⟩
    | some => rintro ⟨⟩
  cases number with
  | signed value => exact ofInt value.toInt
  | unsigned value => exact ofInt value.toNat
  | float value =>
      rintro rfl
      simp only [read?] at found
      split at found
      · rename_i value _
        have isInteger := Option.some.inj found
        rw [Number.ofInt] at isInteger
        split at isInteger <;> cases isInteger
      · rcases Option.map_eq_some_iff.mp found with ⟨float, isFloat, equal⟩
        cases equal
        cases (Option.filter_eq_some_iff.mp isFloat).2

theorem caseless_eq_false_of_digit {letter : Char} {others : List Char}
    (isLetter :
      ("0123456789".toList.all fun digit => digit.toUpper != letter.toUpper) = true)
    (starts : ∀ first ∈ text.head?, first.isDigit = true) :
    Text.caseless text (letter :: others) = false := by
  cases text with
  | nil => rfl
  | cons first rest =>
      have differs := List.all_eq_true.mp isLetter first (mem_digits (starts first rfl))
      rw [Text.caseless, beq_eq_false_iff_ne.mpr (bne_iff_ne.mp differs), Bool.false_and]

theorem readFloat?_sign (spells : Decimal.Spells text decimal.toRat) (negative : Bool) :
    Binary64.read? (sign negative ++ text) =
      some (.ofMagnitude? negative decimal.nearest?) := by
  have unsigned : Binary64.read?.unsigned? negative text =
      some (.ofMagnitude? negative decimal.nearest?) := by
    rcases spells.reads with ⟨decimal', found, same⟩
    have noInf : Text.caseless text "inf".toList = false :=
      caseless_eq_false_of_digit (by decide) spells.starts
    have noInfinity : Text.caseless text "infinity".toList = false :=
      caseless_eq_false_of_digit (by decide) spells.starts
    have noNan : Text.caseless text "nan".toList = false :=
      caseless_eq_false_of_digit (by decide) spells.starts
    simp only [Binary64.read?.unsigned?, noInf, noInfinity, noNan, Bool.or_false,
      Bool.false_eq_true, if_false, found, Option.map_some, Decimal.nearest?_congr same]
  cases negative with
  | true => exact unsigned
  | false =>
      rw [sign, if_neg Bool.false_ne_true, List.nil_append]
      unfold Binary64.read?
      split
      · exact absurd rfl (ne_cons_of_digit spells.starts (by decide))
      · exact absurd rfl (ne_cons_of_digit spells.starts (by decide))
      · exact unsigned

theorem readInt?_sign (starts : ∀ first ∈ text.head?, first.isDigit = true)
    (negative : Bool) :
    Decimal.readInt? (sign negative ++ text) =
      (Decimal.readNat?.unsigned? text).map fun digits : Nat =>
        if negative then -(digits : Int) else digits := by
  cases negative with
  | true =>
      change Decimal.readInt? ('-' :: text) = _
      rw [Decimal.readInt?]
      cases Decimal.readNat?.unsigned? text <;> rfl
  | false => exact readInt?_of_digit starts

theorem toRat_of_unsigned? (spells : Decimal.Spells text decimal.toRat) {digits : Nat}
    (found : Decimal.readNat?.unsigned? text = some digits) : decimal.toRat = digits := by
  rw [Decimal.readNat?.unsigned?, Option.ite_none_right_eq_some, Bool.and_eq_true,
    Bool.not_eq_true', List.isEmpty_eq_false_iff, List.all_eq_true] at found
  rcases found with ⟨⟨nonempty, allDigits⟩, isValue⟩
  have isRead := Decimal.read?_pointed nonempty allDigits (List.forall_mem_nil _)
  rcases spells.reads with ⟨decimal', isRead', same⟩
  rw [Decimal.pointed, List.append_nil, isRead', Option.some_inj] at isRead
  rw [← same, isRead, ← Option.some.inj isValue]
  simp [Decimal.toRat]

theorem read?_sign (spells : Decimal.Spells text decimal.toRat)
    (found : decimal.nearest? = some magnitude) (negative : Bool) :
    ∃ parsed, read? (sign negative ++ text) = some parsed ∧
      parsed.order? (.float (.finite negative magnitude)) = some .eq := by
  have trimmed : Text.trim (sign negative ++ text) = sign negative ++ text := by
    have minus : Text.IsTrimmed ['-'] :=
      Text.isTrimmed_of_solid (List.cons_ne_nil _ _) (List.forall_mem_singleton.mpr rfl)
    cases negative with
    | true => exact (minus.append spells.trimmed []).trim_eq
    | false => exact spells.trimmed.trim_eq
  have nearest := Decimal.isNearest_of_nearest? found
  rw [read?, trimmed]
  split
  · -- An integer is compared as the float nearest to it.
    rename_i integer isInteger
    rcases Option.filter_eq_some_iff.mp isInteger with ⟨isInteger, holds⟩
    rw [readInt?_sign spells.starts] at isInteger
    rcases Option.map_eq_some_iff.mp isInteger with ⟨digits, isDigits, rfl⟩
    rw [toRat_of_unsigned? spells isDigits] at nearest
    refine ⟨_, rfl,
      (mixedOrder (integer?_ofInt (of_decide_eq_true holds)) rfl).same_iff.mpr ?_⟩
    cases negative with
    | true =>
        rw [if_pos rfl, Int.cast_neg]
        exact nearest.neg
    | false => exact nearest
  · refine ⟨.float (.finite negative magnitude), ?_, ?_⟩
    · rw [readFloat?_sign spells, found]
      rfl
    · have isFinite : (Binary64.finite negative magnitude).isFinite = true := rfl
      have compared := Binary64.order?_of_isFinite isFinite isFinite
      rw [compare_eq_iff_eq.mpr rfl] at compared
      exact compared

theorem read?_text_of_integer? {number : Number} {value : Int}
    (isInteger : number.integer? = some value) (isText : number.text = intText value) :
    ∃ parsed, read? number.text = some parsed ∧ parsed.order? number = some .eq := by
  have holds := holds_of_integer? isInteger
  rw [isText, read?_intText holds]
  refine ⟨_, rfl, ?_⟩
  rw [order?_of_integer? (integer?_ofInt holds) isInteger, Int.compare_eq_eq.mpr rfl]

theorem read?_text {number : Number}
    (finite : ∀ float, number = .float float → float.isFinite = true) :
    ∃ parsed, read? number.text = some parsed ∧ parsed.order? number = some .eq := by
  match number with
  | .signed value => exact read?_text_of_integer? rfl rfl
  | .unsigned value =>
      refine read?_text_of_integer? rfl ?_
      rw [intText, if_neg (by omega)]
      rfl
  | .float (.finite negative magnitude) =>
      rw [text, Binary64.text]
      split
      · rename_i isZero
        have found : Decimal.nearest? ⟨0, 0⟩ = some magnitude := by
          rcases magnitude with ⟨units, representable⟩
          cases isZero
          exact Decimal.nearest?_zero 0
        exact read?_sign (Decimal.spells_text ⟨0, 0⟩) found negative
      · exact read?_sign (Decimal.spells_text _) magnitude.nearest?_shortest negative
  | .float .notANumber | .float (.infinite _) => cases finite _ rfl

end Number

end Criteria
