import Criteria.Proofs.Evaluator.TextComparison
import Criteria.Proofs.Value.Json

/-!
Scalars and their literals.

The literal of a scalar is read back as the scalar: words and texts as they are, and a
number as one that is the same, though it can be of another kind. So a field is equal to
the literal of what it holds. Only the floats that are not finite have literals that are
not read as numbers at all.
-/

namespace Criteria

open Text (quote)

inductive Value.IsScalar : Value → Prop
  | null : IsScalar .null
  | bool (value : Bool) : IsScalar (.bool value)
  | string (text : String) : IsScalar (.string text)
  | number {number : Number} (finite : (Value.number number).AllFinite) :
      IsScalar (.number number)

namespace Value.IsScalar

variable {value : Value} {literal : String}

theorem exists_literal (isScalar : value.IsScalar) :
    ∃ literal, value.literal? = some literal := by
  cases isScalar with
  | null | string | number => exact ⟨_, rfl⟩
  | bool value => cases value <;> exact ⟨_, rfl⟩

theorem equalsLiteral_eq_true (isScalar : value.IsScalar)
    (isLiteral : value.literal? = some literal) :
    Value.equalsLiteral (some value) literal = true := by
  cases isScalar with
  | null | bool | string => exact beq_iff_eq.mpr isLiteral
  | @number number finite =>
      cases isLiteral
      rcases Number.read?_text (Value.allFinite_number_iff.mp finite) with
        ⟨parsed, found, level⟩
      have level' : number.order? parsed = some .eq := by
        rw [parsed.order?_swap number, level]
        rfl
      rw [Value.equalsLiteral, String.toList_ofList, found, Option.any_some,
        Number.same, level']
      rfl

end Value.IsScalar

/-- A scalar has a literal and is equal to it, also where it is the value of a field and
the literal is quoted in a condition. A number is read back from its literal as one that
is the same. -/
theorem evaluate_own_literal {value : Value} (isScalar : value.IsScalar) :
    ∃ literal, value.literal? = some literal ∧
      Value.equalsLiteral (some value) literal = true ∧
      (∀ number, value = .number number →
        ∃ parsed, Number.read? literal.toList = some parsed ∧
        parsed.order? number = some .eq) ∧
      ∀ (subject : Subject.Name) path object whole, Term.keyword? subject.text = none →
        Path.read? subject.text = some path →
        object.get? (String.ofList subject.text) = some value →
        Asks subject "=" (quote literal.toList) whole →
        evaluate (String.ofList whole) object = .ok true := by
  rcases isScalar.exists_literal with ⟨literal, isLiteral⟩
  have equal := isScalar.equalsLiteral_eq_true isLiteral
  refine ⟨literal, isLiteral, equal, ?_, ?_⟩
  · rintro number rfl
    cases isScalar with
    | number finite =>
        cases isLiteral
        rw [String.toList_ofList]
        exact Number.read?_text (Value.allFinite_number_iff.mp finite)
  · intro subject path object whole noKeyword isPath found asks
    have compares : Asks subject Relation.equal.name (quote literal.toList) whole := asks
    have decided := compares.evaluate_relation_quote noKeyword isPath found
    exact decided.trans (congrArg Except.ok equal)

/-- The first float above the signed integers, whose literal is that of another integer.
-/
theorem evaluate_own_literal_of_float :
    let value : Value := .number (.float (.ofInt 9223372036854775808))
    value.IsScalar ∧ value.literal? = some "9223372036854776000" ∧
      Number.read? "9223372036854776000".toList = some (.unsigned 9223372036854776000) ∧
      evaluate "a=\"9223372036854776000\"" (.map [("a", value)]) = .ok true := by
  intro value
  have named : "a".toList.all Subject.isNameCharacter = true := by decide
  have isPath : Path.read? "a".toList = some ⟨[.attribute "a"]⟩ := by decide +kernel
  have noKeyword : Term.keyword? "a".toList = none := by decide
  have nothing : Text.allBlank [] = true := List.all_nil
  have isScalar : value.IsScalar := by
    refine .number (Value.allFinite_number_iff.mpr ?_)
    rintro float ⟨⟩
    decide +kernel
  have digits : (Number.float (.ofInt 9223372036854775808)).text =
      "9223372036854776000".toList := by
    decide +kernel
  have isDigits : value.literal? = some "9223372036854776000" := by
    rw [Value.literal?, digits, String.ofList_toList]
  have found : (Value.map [("a", value)]).get? "a" = some value := by
    rw [Value.get?, isPath]
    rfl
  rcases evaluate_own_literal isScalar with ⟨literal, isLiteral, _, _, decided⟩
  cases isLiteral.symm.trans isDigits
  have isTrue :=
    decided ⟨"a".toList, by decide, List.all_eq_true.mp named⟩ _ _ _ noKeyword
    isPath found (.intro (.symbol (by decide) nothing nothing) (.inr ⟨_, rfl⟩))
  exact ⟨isScalar, isDigits, by decide +kernel, isTrue⟩

end Criteria
