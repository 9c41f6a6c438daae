import Criteria.Proofs.Condition.Arguments
import Criteria.Proofs.Condition.Context
import Criteria.Proofs.Condition.Decomposition

/-!
Conditions about a call, decided with the standard functions and operators.

Three things can be wrong with a call. One of several arguments is blank, or there is
no function of the name; these two are found where the name stands as it is written,
and reported with it. Or the function does not take so many arguments. This is found
by the function, which is not told how it was written, so it reports the name that it
was added with.
-/

namespace Criteria

open Nesting (Balanced Uncut splitOutside outside)

/-! ## The pieces between the parentheses -/

namespace Subject

/-- The pieces of the text between the parentheses of a call, without the blanks around
them. There is none if there are only blanks; otherwise a piece is what stands between
two commas that are outside quotes and parentheses. -/
inductive Pieces : List Char → List (List Char) → Prop
  | nothing {text : List Char} (blank : Text.allBlank text = true) : Pieces text []
  | between {pieces : List (List Char)}
      (filled : Text.allBlank ([','].intercalate pieces) = false)
      (uncut : ∀ piece ∈ pieces, Uncut (· = ',') piece) :
      Pieces ([','].intercalate pieces) (pieces.map Text.trim)

def pieces (text : List Char) : List (List Char) :=
  if Text.allBlank text then [] else (splitOutside ',' outside text).map Text.trim

theorem pieces_iff {text : List Char} (balanced : Balanced text)
    {others : List (List Char)} :
    Pieces text others ↔ others = pieces text := by
  constructor
  · intro isPieces
    cases isPieces with
    | nothing blank => rw [pieces, if_pos blank]
    | @between others filled uncut =>
        have nonempty : others ≠ [] := by
          rintro rfl
          cases filled
        rw [pieces, if_neg (by simp [filled]),
          Nesting.splitOutside_intercalate nonempty uncut]
  · rintro rfl
    by_cases blank : Text.allBlank text = true
    · rw [pieces, if_pos blank]
      exact .nothing blank
    · have whole := Nesting.intercalate_splitOutside ',' outside text
      have filled : Text.allBlank ([','].intercalate (splitOutside ',' outside text)) =
          false := by
        rwa [whole, ← Bool.not_eq_true]
      have isPieces := Pieces.between filled
        fun _ => Nesting.uncut_of_mem_splitOutside rfl balanced
      rw [whole] at isPieces
      rwa [pieces, if_neg blank]

theorem arguments?_eq (text : List Char) :
    arguments? text = if [] ∈ pieces text then none else some (pieces text) := by
  rw [arguments?, pieces]
  by_cases blank : Text.allBlank text = true
  · simp [blank]
  · simp [blank, List.any_eq_true, List.isEmpty_iff]

end Subject

/-! ## What the standard functions and operators report -/

variable {m : Type → Type} [Monad m]

theorem Subject.IsName.normalize_eq {name after : List Char}
    (isName : IsName name after) :
    ValueFunction.normalize (String.ofList name) = String.ofList (Text.upper name) := by
  have solid : ∀ character ∈ name, isBlank character = false :=
    fun character member => (isNameCharacter_iff.mp (isName.named character member)).1
  rw [ValueFunction.normalize, String.toList_ofList,
    (Text.isTrimmed_of_solid isName.nonempty solid).trim_eq]

namespace ValueFunction

def NamesLength (name : List Char) : Prop :=
  Text.caseless name "LEN".toList = true

instance (name : List Char) : Decidable (NamesLength name) :=
  inferInstanceAs (Decidable (_ = _))

theorem namesLength_iff {name : List Char} :
    NamesLength name ↔ Text.upper name = Text.upper "LEN".toList :=
  Text.caseless_iff

theorem get?_standard {name after : List Char} (isName : Subject.IsName name after) :
    (standard : FunctionTable m).get? (String.ofList name) =
      if NamesLength name then some length else none := by
  have normal : normalize "LEN" = String.ofList (Text.upper "LEN".toList) := by
    decide +kernel
  rw [FunctionTable.get?, standard, FunctionTable.insert, FunctionTable.empty,
    Std.TreeMap.getElem?_insert, isName.normalize_eq, normal]
  by_cases same : Text.upper name = Text.upper "LEN".toList
  · rw [if_pos (namesLength_iff.mpr same), same, if_pos Std.ReflCmp.compare_self]
  · have differ : String.ofList (Text.upper "LEN".toList) ≠
        String.ofList (Text.upper name) :=
      fun equal => same (String.ofList_injective equal).symm
    rw [if_neg (mt namesLength_iff.mp same),
      if_neg (mt Std.LawfulEqOrd.eq_of_compare differ)]
    simp

end ValueFunction

def Operator.BlamesOperand (operator : Operator Id) : Prop :=
  ∀ input error, (operator input : Except EvaluationError Bool) = .error error →
    ∃ operation complaint, error = .wrongOperand operation complaint

namespace Operator

theorem equals_blamesOperand (negated : Bool) : (equals negated).BlamesOperand := by
  intro input error failed
  cases failed

theorem ordered_blamesOperand (accepted : List Ordering) :
    (ordered accepted).BlamesOperand := by
  intro input error failed
  cases failed

theorem is_blamesOperand (negated : Bool) : (is negated).BlamesOperand := by
  intro input error failed
  unfold is at failed
  split at failed
  · cases failed
  · cases failed
    exact ⟨_, _, rfl⟩

theorem isIn_blamesOperand (negated : Bool) : (isIn negated).BlamesOperand := by
  intro input error failed
  cases failed

theorem standard_blamesOperand : standard.All BlamesOperand :=
  standard_all equals_blamesOperand ordered_blamesOperand is_blamesOperand
    isIn_blamesOperand

end Operator

namespace Condition

open ValueFunction (NamesLength)

/-! ## What a call comes to -/

/-- The outcomes of a condition about a call, where `decide` is what the operator makes
of the length of an argument. -/
inductive CallOutcome (name : List Char) (pieces : List (List Char))
    (decide : List Char → Except EvaluationError Bool) :
    Except EvaluationError Bool → Prop
  | blankPiece (blank : [] ∈ pieces) :
      CallOutcome name pieces decide (.error (.wrongArguments (String.ofList name)))
  | unknown (filled : [] ∉ pieces) (unknown : ¬ NamesLength name) :
      CallOutcome name pieces decide (.error (.unknownFunction (String.ofList name)))
  | wrongCount (filled : [] ∉ pieces) (known : NamesLength name)
      (several : pieces.length ≠ 1) :
      CallOutcome name pieces decide (.error (.wrongArguments "LEN"))
  | measured {piece : List Char} (only : pieces = [piece]) (filled : piece ≠ [])
      (known : NamesLength name) :
      CallOutcome name pieces decide (decide piece)

def Parts.decideLength (parts : Parts Id) (context : Context) (argument : List Char) :
    Except EvaluationError Bool :=
  parts.operator {
    value := some (.number (.unsigned (UInt64.ofNat
      (Value.length (context.argumentValue? (String.ofList argument))))))
    literal := String.ofList parts.literal
    tokens := [parts.subjectText, parts.operatorText, parts.literalText].map String.ofList
    context }

theorem isName_of_parts? {m : Type → Type} {operators : OperatorTable m}
    {text name arguments : List Char} {parts : Parts m}
    (isParts : parts? operators text = some parts)
    (isCall : parts.subject = .call name arguments) :
    (∃ after, Subject.IsName name after) ∧ Balanced arguments := by
  rcases finds_of_parts? isParts with ⟨isSubject, _, _⟩
  cases isCall
  cases Subject.reads_of_read? isSubject with
  | call isName _ closed => exact ⟨⟨_, isName⟩, (Nesting.untilClosing?_split closed).2⟩

section

variable {context : Context} {condition : String} {parts : Parts Id}
  {name arguments : List Char}

theorem evaluate_of_call
    (isParts : parts? Operator.standard (Text.trim condition.toList) = some parts)
    (isCall : parts.subject = .call name arguments) :
    CallOutcome name (Subject.pieces arguments) (parts.decideLength context)
      (evaluate (m := Id) ⟨Operator.standard, ValueFunction.standard⟩ context
        condition) := by
  rcases (isName_of_parts? isParts isCall).1 with ⟨after, isName⟩
  simp only [evaluate, isParts, isCall, subjectValue, Subject.arguments?_eq,
    ValueFunction.get?_standard isName]
  by_cases blank : [] ∈ Subject.pieces arguments
  · simp only [blank, if_true]
    exact .blankPiece blank
  by_cases known : NamesLength name
  · simp only [blank, known, if_true, if_false]
    generalize Subject.pieces arguments = pieces at blank
    rcases pieces with _ | ⟨first, _ | ⟨second, others⟩⟩
    · exact .wrongCount blank known (by simp)
    · exact .measured rfl (by simpa [eq_comm] using blank) known
    · exact .wrongCount blank known (by simp)
  · simp only [blank, known, if_false]
    exact .unknown blank known

end

/-! ## Whether the errors say how the function is written -/

/-- A call fails just where it should, and the errors that it fails with hold the
name as it is written. Where it does not fail, the operator decides about the length
of the argument. -/
structure ReportsAsWritten (name : List Char) (pieces : List (List Char))
    (decide : List Char → Except EvaluationError Bool)
    (outcome : Except EvaluationError Bool) :
    Prop where
  wrongArguments_iff : outcome = .error (.wrongArguments (String.ofList name)) ↔
    [] ∈ pieces ∨ NamesLength name ∧ pieces.length ≠ 1
  unknownFunction_iff : outcome = .error (.unknownFunction (String.ofList name)) ↔
    [] ∉ pieces ∧ ¬ NamesLength name
  otherwise : [] ∉ pieces → NamesLength name → pieces.length = 1 →
    (∀ function, outcome ≠ .error (.wrongArguments function) ∧
      outcome ≠ .error (.unknownFunction function)) ∧
    ∃ piece, pieces = [piece] ∧ outcome = decide piece

/-- The function does not take so many arguments, and it is written in other letters
than those that it was added with. -/
structure Misnamed (name : List Char) (pieces : List (List Char)) : Prop where
  known : NamesLength name
  differs : name ≠ "LEN".toList
  filled : [] ∉ pieces
  several : pieces.length ≠ 1

section

variable {name : List Char} {pieces : List (List Char)}
  {decide : List Char → Except EvaluationError Bool}
  {outcome : Except EvaluationError Bool}

theorem CallOutcome.of_misnamed (comes : CallOutcome name pieces decide outcome)
    (misnamed : Misnamed name pieces) : outcome = .error (.wrongArguments "LEN") := by
  cases comes with
  | blankPiece blank => exact absurd blank misnamed.filled
  | unknown _ unknown => exact absurd misnamed.known unknown
  | wrongCount => rfl
  | measured only => exact absurd (by rw [only]; rfl) misnamed.several

theorem CallOutcome.not_reportsAsWritten (comes : CallOutcome name pieces decide outcome)
    (misnamed : Misnamed name pieces) :
    ¬ ReportsAsWritten name pieces decide outcome := by
  intro reports
  have reported :=
    reports.wrongArguments_iff.mpr (.inr ⟨misnamed.known, misnamed.several⟩)
  rw [comes.of_misnamed misnamed] at reported
  have written : "LEN" = String.ofList name := by
    simpa only [Except.error.injEq, EvaluationError.wrongArguments.injEq] using reported
  apply misnamed.differs
  rw [written, String.toList_ofList]

theorem CallOutcome.reportsAsWritten (comes : CallOutcome name pieces decide outcome)
    (blames : ∀ piece error, decide piece = .error error →
      ∃ operation complaint, error = .wrongOperand operation complaint)
    (named : ¬ Misnamed name pieces) : ReportsAsWritten name pieces decide outcome := by
  cases comes with
  | blankPiece blank =>
      exact ⟨by simp [blank], by simp [blank], fun filled => absurd blank filled⟩
  | unknown filled unknown =>
      exact ⟨by simp [filled, unknown], by simp [filled, unknown], by simp [unknown]⟩
  | wrongCount filled known several =>
      have same : name = "LEN".toList := by
        by_contra differs
        exact named ⟨known, differs, filled, several⟩
      have written : "LEN" = String.ofList name := by
        rw [same]
        rfl
      rw [written]
      exact ⟨by simp [known, several], by simp [known], fun _ _ one => absurd one several⟩
  | @measured piece only filled known =>
      have spared : ∀ function, decide piece ≠ .error (.wrongArguments function) ∧
          decide piece ≠ .error (.unknownFunction function) := by
        intro function
        constructor
        · intro failed
          rcases blames piece _ failed with ⟨_, _, ⟨⟩⟩
        · intro failed
          rcases blames piece _ failed with ⟨_, _, ⟨⟩⟩
      refine ⟨?_, ?_, fun _ _ _ => ⟨spared, piece, only, rfl⟩⟩
      · simp [spared, only, filled.symm]
      · simp [spared, known]

end

/-- For every condition whose subject is a call, the errors are those that should be
reported and hold the name as it is written, unless the function is misnamed in the
condition. Then the error is that the arguments are wrong, as it should be, but the name
in it is that which the function was added with. -/
theorem call_reportsAsWritten_iff {context : Context} {condition : String}
    {parts : Parts Id} {name arguments : List Char}
    (isParts : parts? Operator.standard (Text.trim condition.toList) = some parts)
    (isCall : parts.subject = .call name arguments) :
    ∃ pieces, (∀ others, Subject.Pieces arguments others ↔ others = pieces) ∧
      let outcome : Except EvaluationError Bool :=
        evaluate (m := Id) ⟨Operator.standard, ValueFunction.standard⟩ context condition
      (ReportsAsWritten name pieces (parts.decideLength context) outcome ↔
        ¬ Misnamed name pieces) ∧
      (Misnamed name pieces → outcome = .error (.wrongArguments "LEN")) := by
  have comes := @evaluate_of_call context condition parts name arguments isParts isCall
  have blames := property_of_parts? Operator.standard_blamesOperand isParts
  refine ⟨Subject.pieces arguments,
    fun _ => Subject.pieces_iff (isName_of_parts? isParts isCall).2, ⟨?_, ?_⟩,
    comes.of_misnamed⟩
  · exact fun reports misnamed => comes.not_reportsAsWritten misnamed reports
  · exact comes.reportsAsWritten fun _ => blames _

theorem call_reportsAsWritten_iff_of_two_arguments :
    ∃ parts : Parts Id,
      parts? Operator.standard (Text.trim " Len(\"a,)\", b) = 1".toList) = some parts ∧
      parts.subject = .call "Len".toList "\"a,)\", b".toList ∧
      Subject.Pieces "\"a,)\", b".toList ["\"a,)\"".toList, "b".toList] ∧
      (evaluate (m := Id) ⟨Operator.standard, ValueFunction.standard⟩ ⟨"", .null⟩
        " Len(\"a,)\", b) = 1" : Except EvaluationError Bool) =
          .error (.wrongArguments "LEN") := by
  have subject : (parts? (Operator.standard : OperatorTable Id)
      (Text.trim " Len(\"a,)\", b) = 1".toList)).map (·.subject) =
        some (.call "Len".toList "\"a,)\", b".toList) := by decide +kernel
  rcases Option.map_eq_some_iff.mp subject with ⟨parts, isParts, isCall⟩
  rcases @call_reportsAsWritten_iff ⟨"", .null⟩ _ parts _ _ isParts isCall with
    ⟨pieces, isPieces, _, reports⟩
  have equal : Subject.pieces "\"a,)\", b".toList = ["\"a,)\"".toList, "b".toList] := by
    decide +kernel
  have found : Subject.Pieces "\"a,)\", b".toList ["\"a,)\"".toList, "b".toList] :=
    (Subject.pieces_iff (by decide)).mpr equal.symm
  cases (isPieces _).mp found
  exact ⟨parts, isParts, isCall, found,
    reports ⟨by decide, by decide, by decide, by decide⟩⟩

/-- Without arguments, `len` is reported as `LEN`. -/
theorem call_reports_registered_name :
    let outcome : Except EvaluationError Bool :=
      evaluate (m := Id) ⟨Operator.standard, ValueFunction.standard⟩
        ⟨"len() = 0", .map []⟩ "len() = 0"
    (parts? (Operator.standard : OperatorTable Id) "len() = 0".toList).map (·.subject) =
        some (.call "len".toList []) ∧
      Subject.Pieces [] [] ∧ outcome = .error (.wrongArguments "LEN") ∧
      ∀ decide, ¬ ReportsAsWritten "len".toList [] decide outcome := by
  intro outcome
  have isCall :
      (parts? (Operator.standard : OperatorTable Id) "len() = 0".toList).map (·.subject) =
      some (.call "len".toList []) := by decide +kernel
  have reported : outcome = .error (.wrongArguments "LEN") := by decide +kernel
  refine ⟨isCall, .nothing rfl, reported, ?_⟩
  intro decide reports
  have expected := reports.wrongArguments_iff.mpr (.inr ⟨rfl, by simp⟩)
  rw [reported] at expected
  simp at expected

end Condition

end Criteria
