import Criteria.Proofs.Evaluator.Standard

/-!
`IN` as a row of equalities.

The literal of `IN` lists candidates between commas. The blanks around them do not
count, and each candidate is compared as it would be by `=`, the blank ones and
numbers included. So `IN` is the disjunction of equalities and `NOT IN` is its
negation. By De Morgan this is the conjunction of inequalities, but only where the
object has a value at the path.
-/

namespace Criteria

open Text (quote solid_of_words_eq)

/-! ## Lists of candidates -/

structure IsCandidate (candidate : List Char) : Prop where
  trimmed : Text.trim candidate = candidate
  noComma : ',' ∉ candidate

/-- The literals that list some candidates: with commas between them, and with any
blanks around them. -/
inductive Listed : List (List Char) → List Char → Prop
  | single {candidate before after : List Char} (isCandidate : IsCandidate candidate)
      (blank : Text.allBlank before = true) (blank' : Text.allBlank after = true) :
      Listed [candidate] (before ++ candidate ++ after)
  | cons {candidate before after list : List Char} {candidates : List (List Char)}
      (isCandidate : IsCandidate candidate) (blank : Text.allBlank before = true)
      (blank' : Text.allBlank after = true) (listed : Listed candidates list) :
      Listed (candidate :: candidates) (before ++ candidate ++ after ++ ',' :: list)

theorem IsCandidate.splitWhere_eq {candidate before after : List Char}
    (isCandidate : IsCandidate candidate) (blank : Text.allBlank before = true)
    (blank' : Text.allBlank after = true) :
    Text.splitWhere (· == ',') (before ++ candidate ++ after) =
      [before ++ candidate ++ after] := by
  have noComma {gap : List Char} (blank : Text.allBlank gap = true) : ',' ∉ gap :=
    fun member => nomatch List.all_eq_true.mp blank ',' member
  refine Text.splitWhere_of_solid fun character member => beq_eq_false_iff_ne.mpr ?_
  rintro rfl
  rcases List.mem_append.mp member with inFront | inAfter
  · rcases List.mem_append.mp inFront with inBefore | inCandidate
    · exact noComma blank inBefore
    · exact isCandidate.noComma inCandidate
  · exact noComma blank' inAfter

theorem Listed.candidates_eq {candidates : List (List Char)} {list : List Char}
    (listed : Listed candidates list) :
    Operator.candidates (String.ofList list) = candidates.map String.ofList := by
  have found {candidate before after : List Char} (isCandidate : IsCandidate candidate)
      (blank : Text.allBlank before = true) (blank' : Text.allBlank after = true) :
      String.ofList (Text.trim (before ++ candidate ++ after)) =
        String.ofList candidate := by
    rw [Text.trim_between blank blank', isCandidate.trimmed]
  rw [Operator.candidates, String.toList_ofList]
  induction listed with
  | single isCandidate blank blank' =>
      rw [isCandidate.splitWhere_eq blank blank', List.map_singleton,
        found isCandidate blank blank']
      rfl
  | cons isCandidate blank blank' _ induction =>
      rw [Text.splitWhere_append (by rfl), isCandidate.splitWhere_eq blank blank',
        List.map_append, List.map_singleton, found isCandidate blank blank', induction]
      rfl

/-! ## The operators -/

theorem Asks.evaluate_quote {subject : Subject.Name} {name : String}
    {operator : Operator Id} {content whole : List Char} {path : Path}
    (asks : Asks subject name (quote content) whole)
    (fits : Operator.Fits name operator (quote content))
    (noKeyword : Term.keyword? subject.text = none)
    (isPath : Path.read? subject.text = some path) {object : Value} {truth : Bool}
    (accepts : ∀ tokens context,
      operator ⟨object.follow? path, String.ofList content, tokens, context⟩ =
      .ok truth) :
    evaluate (String.ofList whole) object = .ok truth := by
  rcases asks.evaluate_eq_ok_iff fits noKeyword (unconnected_quote content) object with
    ⟨tokens, decided⟩
  refine (decided truth).mpr ⟨path, content, isPath, ?_, accepts tokens _⟩
  rw [(Text.isTrimmed_quote content).trim_eq, Condition.literal?_quote]

/-- With a list of candidates, `IN` is the disjunction of the equalities with the
candidates, and `NOT IN` is the negation of that. This is the conjunction of the
inequalities where there is a value at the path; where there is none, every inequality
is false and `NOT IN` is true. -/
theorem evaluate_in_list {subject : Subject.Name} {path : Path}
    {candidates : List (List Char)} {list : List Char}
    (noKeyword : Term.keyword? subject.text = none)
    (isPath : Path.read? subject.text = some path) (listed : Listed candidates list)
    (object : Value) :
    ∃ equal unequal : List Char → Bool,
      (∀ candidate whole, Asks subject "=" (quote candidate) whole →
        evaluate (String.ofList whole) object = .ok (equal candidate)) ∧
      (∀ candidate whole, Asks subject "!=" (quote candidate) whole →
        evaluate (String.ofList whole) object = .ok (unequal candidate)) ∧
      (∀ whole, Asks subject "IN" (quote list) whole →
        evaluate (String.ofList whole) object = .ok (candidates.any equal)) ∧
      (∀ whole, Asks subject "NOT IN" (quote list) whole →
        evaluate (String.ofList whole) object = .ok (!candidates.any equal)) ∧
      (object.get? (String.ofList subject.text) ≠ none →
        (!candidates.any equal) = candidates.all unequal) ∧
      (object.get? (String.ofList subject.text) = none →
        candidates.any equal = false ∧ ∀ candidate, unequal candidate = false) := by
  have value := Value.get?_of_read? isPath object
  have any_equal : (Operator.candidates (String.ofList list)).any
      (Value.equalsLiteral (object.follow? path)) =
        candidates.any fun candidate =>
          Value.equalsLiteral (object.follow? path) (String.ofList candidate) := by
    rw [listed.candidates_eq, List.any_map]
    rfl
  refine ⟨fun candidate =>
    Value.equalsLiteral (object.follow? path) (String.ofList candidate), fun candidate =>
    (object.follow? path).isSome &&
      !Value.equalsLiteral (object.follow? path) (String.ofList candidate),
    fun candidate whole asks => ?_, fun candidate whole asks => ?_, fun whole asks => ?_,
    fun whole asks => ?_, fun present => ?_, fun absent => ?_⟩
  · have isEquals : Operator.Fits "=" (Operator.equals false) (quote candidate) :=
      Operator.fits_of_ne_is rfl (by decide)
    exact asks.evaluate_quote isEquals noKeyword isPath fun _ _ => rfl
  · have isUnequal : Operator.Fits "!=" (Operator.equals true) (quote candidate) :=
      Operator.fits_of_ne_is rfl (by decide)
    exact asks.evaluate_quote isUnequal noKeyword isPath fun _ _ => rfl
  · have isIn : Operator.Fits "IN" (Operator.isIn false) (quote list) :=
      Operator.fits_of_ne_is rfl (by decide)
    refine asks.evaluate_quote isIn noKeyword isPath fun _ _ => congrArg Except.ok ?_
    rw [any_equal, Bool.bne_false]
  · have notIn : Operator.Fits "NOT IN" (Operator.isIn true) (quote list) :=
      Operator.fits_of_ne_is rfl (by decide)
    refine asks.evaluate_quote notIn noKeyword isPath fun _ _ => congrArg Except.ok ?_
    rw [any_equal, Bool.bne_true]
  · rw [value, Option.ne_none_iff_isSome] at present
    simp only [present, Bool.true_and]
    exact List.not_any_eq_all_not ..
  · rw [value] at absent
    rw [absent]
    exact ⟨List.any_eq_false.mpr fun _ _ => nofun, fun _ => rfl⟩

theorem evaluate_in_list_of_number :
    let list := " x ,,1.0\t".toList
    let object : Value := .map [("a", .number (.signed 1))]
    Listed ["x".toList, [], "1.0".toList] list ∧
      evaluate "a IN \" x ,,1.0\t\"" object = .ok true ∧
      evaluate "a Not\tin \" x ,,1.0\t\"" object = .ok false ∧
      evaluate "a Not\tin \" x ,,1.0\t\"" .null = .ok true := by
  intro list object
  have named : "a".toList.all Subject.isNameCharacter = true := by decide
  have noKeyword : Term.keyword? "a".toList = none := by decide
  have isPath : Path.read? "a".toList = some ⟨[.attribute "a"]⟩ := by decide +kernel
  have space : Text.allBlank " ".toList = true := by decide
  have apart : " ".toList ≠ [] := by decide
  have nothing : Text.allBlank [] = true := List.all_nil
  have number : Listed ["1.0".toList] ([] ++ "1.0".toList ++ "\t".toList) :=
    .single ⟨by decide, by decide⟩ nothing (by decide)
  have listed : Listed ["x".toList, [], "1.0".toList] list :=
    .cons ⟨by decide, by decide⟩ space space
      (.cons ⟨by decide, by decide⟩ nothing nothing number)
  have asks : Asks ⟨"a".toList, by decide, List.all_eq_true.mp named⟩ "IN" (quote list)
      "a IN \" x ,,1.0\t\"".toList := by
    have spaced : Spaced ["IN".toList] "IN".toList :=
      .single (by decide) (solid_of_words_eq (by decide))
    have starts : ∀ first ∈ "IN".toList.head?, isSymbolCharacter first = false ∧
        first ≠ '(' := by
      rintro _ ⟨⟩
      decide
    exact .intro (.keyword (by decide) spaced (by decide) starts space apart space apart)
      (.inl apart)
  have asks' :
      Asks ⟨"a".toList, by decide, List.all_eq_true.mp named⟩ "NOT IN" (quote list)
      "a Not\tin \" x ,,1.0\t\"".toList := by
    have spaced : Spaced ["Not".toList, "in".toList] "Not\tin".toList :=
      .cons (by decide) (solid_of_words_eq (by decide))
        (by decide : Text.allBlank "\t".toList = true)
        (by decide) (.single (by decide) (solid_of_words_eq (by decide)))
    have starts : ∀ first ∈ "Not\tin".toList.head?,
        isSymbolCharacter first = false ∧ first ≠ '(' := by
      rintro _ ⟨⟩
      decide
    exact .intro (.keyword (by decide) spaced (by decide) starts space apart space apart)
      (.inl apart)
  have isTrue : evaluate "a IN \" x ,,1.0\t\"" object = .ok true := by decide +kernel
  have compared :=
    @evaluate_in_list ⟨"a".toList, by decide, List.all_eq_true.mp named⟩ _ _ _
    noKeyword isPath listed
  rcases compared object with ⟨equal, _, _, _, isIn, notIn, _, _⟩
  rcases compared .null with ⟨_, _, _, _, _, notIn', _, absent⟩
  have nothingThere : Value.null.get? "a" = none := by
    rw [Value.get?, isPath]
    rfl
  have someEqual := Except.ok.inj ((isIn _ asks).symm.trans isTrue)
  refine ⟨listed, isTrue, (notIn _ asks').trans ?_, (notIn' _ asks').trans ?_⟩
  · rw [someEqual]
    rfl
  · rw [(absent nothingThere).1]
    rfl

end Criteria
