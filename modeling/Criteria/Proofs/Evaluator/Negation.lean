import Criteria.Proofs.Evaluator.Standard

/-!
The two ways to negate: with the negated operator, and with `NOT` in front.

The word `NOT` is a connective of one operand in front of a condition, a part of the
operator behind a path, and no part of a literal without quotes. Whatever literal is
written, each place of the word is read as what it is, and both ways give the
opposite of the value without the word. Only `!=` does not, where the object has
nothing at the path.
-/

namespace Criteria

open Text (solid_of_words_eq)

def Decides (expression : List Char) (object : Value) (truth : Bool) : Prop :=
  (∃ span, Expr.read expression = .ok (.leaf span)) ∧
    evaluate (String.ofList expression) object = .ok truth

inductive Negates (expression : List Char) : List Char → Prop
  | intro {keyword gap : List Char} (spelled : Text.upper keyword = "NOT".toList)
      (blank : Text.allBlank gap = true) (apart : gap ≠ []) :
      Negates expression (keyword ++ gap ++ expression)

/-- Of the same value and literal, the second operator says what `change` makes of the
value and of what the first one says. -/
def Operator.Turns (operator operator' : Operator Id)
    (change : Option Value → Bool → Bool) : Prop :=
  ∀ input tokens context truth, operator input = .ok truth →
    operator' { input with tokens, context } = .ok (change input.value truth)

namespace Asks

variable {subject : Subject.Name} {name name' : String} {operator operator' : Operator Id}
  {rest whole other : List Char} {object : Value} {truth : Bool}

theorem evaluate_negated (asks : Asks subject name rest whole)
    (fits : Operator.Fits name operator rest)
    (noKeyword : Term.keyword? subject.text = none) (negates : Negates whole other)
    (decides : Decides whole object truth) :
    evaluate (String.ofList other) object = .ok (!truth) := by
  have unconnected := (asks.exists_span_iff fits.found noKeyword).mp decides.1
  have lone := asks.lone fits.found noKeyword unconnected
  rcases negates with ⟨spelled, blank, apart⟩
  have value :=
    Evaluator.evaluate_negated (m := Id) Vocabulary.standard_ignoresExpression spelled
    blank apart lone object
  have inner :
      (Evaluator.ofVocabulary (Evaluator.standard : Evaluator Id).vocabulary).evaluate
      (String.ofList whole) object = .ok truth := decides.2
  rw [inner] at value
  exact value

theorem decides_of_turns (asks : Asks subject name rest whole)
    (asks' : Asks subject name' rest other) (fits : Operator.Fits name operator rest)
    (fits' : Operator.Fits name' operator' rest)
    (noKeyword : Term.keyword? subject.text = none) {change : Option Value → Bool → Bool}
    (turns : Operator.Turns operator operator' change)
    (decides : Decides whole object truth) :
    Decides other object (change (object.get? (String.ofList subject.text)) truth) := by
  have unconnected := (asks.exists_span_iff fits.found noKeyword).mp decides.1
  refine ⟨(asks'.exists_span_iff fits'.found noKeyword).mpr unconnected, ?_⟩
  rcases asks.evaluate_eq_ok_iff fits noKeyword unconnected object with ⟨tokens, decided⟩
  rcases asks'.evaluate_eq_ok_iff fits' noKeyword unconnected object with
    ⟨tokens', decided'⟩
  rcases (decided truth).mp decides.2 with ⟨path, literal, isPath, isLiteral, accepts⟩
  rw [decided', Value.get?_of_read? isPath]
  exact ⟨path, literal, isPath, isLiteral, turns _ tokens' _ truth accepts⟩

end Asks

/-! ## The negated operators -/

namespace Operator

theorem isIn_turns : Turns (isIn false) (isIn true) fun _ truth => !truth := by
  intro input tokens context truth accepts
  cases accepts
  exact congrArg Except.ok (by simp)

theorem is_turns : Turns (is false) (is true) fun _ truth => !truth := by
  intro input tokens context truth accepts
  rw [is] at accepts ⊢
  cases verdict : is? input.value input.literal with
  | none =>
      rw [verdict] at accepts
      cases accepts
  | some holds =>
      rw [verdict] at accepts
      cases accepts
      cases holds <;> rfl

theorem equals_turns :
    Turns (equals false) (equals true) fun value truth => value.isSome && !truth := by
  intro input tokens context truth accepts
  cases accepts
  rfl

end Operator

/-- Where a condition about a path has a value, the negated operator and `NOT` in front
both give the opposite: for `IN`, for `IS` if the literal does not start with `NOT`, and
for `=`. But `!=` is false, as `=` is, where there is no value at the path. -/
theorem negations_agree {subject : Subject.Name} {rest : List Char} {object : Value}
    {truth : Bool} (noKeyword : Term.keyword? subject.text = none) :
    (∀ whole, Asks subject "IN" rest whole → Decides whole object truth →
      (∀ other, Asks subject "NOT IN" rest other → Decides other object (!truth)) ∧
      ∀ other, Negates whole other →
        evaluate (String.ofList other) object = .ok (!truth)) ∧
    (¬ StartsNegated rest → ∀ whole, Asks subject "IS" rest whole →
      Decides whole object truth →
      (∀ other, Asks subject "IS NOT" rest other → Decides other object (!truth)) ∧
      ∀ other, Negates whole other →
        evaluate (String.ofList other) object = .ok (!truth)) ∧
    ∀ whole, Asks subject "=" rest whole → Decides whole object truth →
      (∀ other, Negates whole other →
        evaluate (String.ofList other) object = .ok (!truth)) ∧
      ∀ other, Asks subject "!=" rest other →
        match object.get? (String.ofList subject.text) with
        | some _ => Decides other object (!truth)
        | none => Decides other object false := by
  refine ⟨fun whole asks decides => ?_, fun noNegation whole asks decides => ?_,
    fun whole asks decides => ?_⟩
  · have fitsIn : Operator.Fits "IN" (Operator.isIn false) rest :=
      Operator.fits_of_ne_is rfl (by decide)
    have fitsNotIn : Operator.Fits "NOT IN" (Operator.isIn true) rest :=
      Operator.fits_of_ne_is rfl (by decide)
    refine ⟨fun other asks' => ?_, fun other negates => ?_⟩
    · exact asks.decides_of_turns asks' fitsIn fitsNotIn noKeyword
        Operator.isIn_turns decides
    · exact asks.evaluate_negated fitsIn noKeyword negates decides
  · have fitsIs : Operator.Fits "IS" (Operator.is false) rest :=
      ⟨rfl, fun _ => noNegation⟩
    have fitsIsNot : Operator.Fits "IS NOT" (Operator.is true) rest :=
      Operator.fits_of_ne_is rfl (by decide)
    refine ⟨fun other asks' => ?_, fun other negates => ?_⟩
    · exact asks.decides_of_turns asks' fitsIs fitsIsNot noKeyword
        Operator.is_turns decides
    · exact asks.evaluate_negated fitsIs noKeyword negates decides
  · have fitsEquals : Operator.Fits "=" (Operator.equals false) rest :=
      Operator.fits_of_ne_is rfl (by decide)
    have fitsNotEquals : Operator.Fits "!=" (Operator.equals true) rest :=
      Operator.fits_of_ne_is rfl (by decide)
    refine ⟨fun other negates => ?_, fun other asks' => ?_⟩
    · exact asks.evaluate_negated fitsEquals noKeyword negates decides
    · have decides' := asks.decides_of_turns asks' fitsEquals fitsNotEquals noKeyword
        Operator.equals_turns decides
      split
      · rename_i found
        rw [found] at decides'
        exact decides'
      · rename_i absent
        rw [absent] at decides'
        exact decides'

theorem negations_agree_of_gaps :
    let object : Value := .map [("a", .bool true)]
    Decides "a IS true".toList object true ∧
      Decides "a IS\n Not true".toList object false ∧
      evaluate "nOt\t\ta IS true" object = .ok false := by
  intro object
  have named : "a".toList.all Subject.isNameCharacter = true := by decide
  have noKeyword : Term.keyword? "a".toList = none := by decide
  have space : Text.allBlank " ".toList = true := by decide
  have apart : " ".toList ≠ [] := by decide
  have starts : ∀ first ∈ "IS".toList.head?, isSymbolCharacter first = false ∧
      first ≠ '(' := by
    rintro _ ⟨⟩
    decide
  have is : Spaced ["IS".toList] "IS".toList :=
    .single (by decide) (solid_of_words_eq (by decide))
  have isNot : Spaced ["IS".toList, "Not".toList] "IS\n Not".toList :=
    .cons (by decide) (solid_of_words_eq (by decide))
      (by decide : Text.allBlank "\n ".toList = true)
      (by decide) (.single (by decide) (solid_of_words_eq (by decide)))
  have asks : Asks ⟨"a".toList, by decide, List.all_eq_true.mp named⟩ "IS" "true".toList
      "a IS true".toList :=
    .intro (.keyword (by decide) is (by decide) starts space apart space apart)
      (.inl apart)
  have asks' :
      Asks ⟨"a".toList, by decide, List.all_eq_true.mp named⟩ "IS NOT" "true".toList
      "a IS\n Not true".toList :=
    .intro (.keyword (by decide) isNot (by decide) starts space apart space apart)
      (.inl apart)
  have negates : Negates "a IS true".toList "nOt\t\ta IS true".toList :=
    .intro (by decide : Text.upper "nOt".toList = "NOT".toList)
      (by decide : Text.allBlank "\t\t".toList = true) (by decide)
  have decides : Decides "a IS true".toList object true :=
    ⟨⟨⟨0, 9⟩, by decide +kernel⟩, by decide +kernel⟩
  have noNegation : ¬ StartsNegated "true".toList := by decide
  rcases (negations_agree noKeyword).2.1 noNegation _ asks decides with
    ⟨withOperator, inFront⟩
  exact ⟨decides, withOperator _ asks', inFront _ negates⟩

end Criteria
