import Criteria.Proofs.Condition.Literal
import Criteria.Proofs.Evaluator
import Criteria.Proofs.Expr.Run
import Criteria.Proofs.Term.Placement

/-!
Comparisons of an entry of the object with a literal.

A quoted text reaches the operator as it was before it was quoted, whatever it holds: no
reader on the way takes any part of it for structure. A bare word reaches it as it is.
-/

namespace Criteria

open Text (quote)
open Term (IsPlain)

structure IsEntryName (name : List Char) : Prop where
  nonempty : name ≠ []
  solid : ∀ character ∈ name, isBlank character = false
  noSymbol : ∀ character ∈ name, isSymbolCharacter character = false
  bare : ∀ character ∈ name, character ∉ "\"().[]".toList
  notKeyword : Text.upper name ∉ ["AND".toList, "OR".toList, "NOT".toList]

namespace IsEntryName

variable {name : List Char}

theorem ne {character other : Char} (isName : IsEntryName name)
    (member : character ∈ name) (excluded : other ∈ "\"().[]".toList) :
    character ≠ other := by
  rintro rfl
  exact isName.bare character member excluded

theorem isPlain (isName : IsEntryName name) : ∀ character ∈ name, IsPlain character :=
  fun character member => ⟨isName.solid character member, isName.ne member (by decide),
    isName.ne member (by decide), isName.ne member (by decide)⟩

theorem keyword?_eq_none (isName : IsEntryName name) : Term.keyword? name = none := by
  cases keyword : Term.keyword? name with
  | none => rfl
  | some kind => exact absurd (Term.upper_mem_of_keyword? keyword) isName.notKeyword

theorem read?_eq (isName : IsEntryName name) :
    Path.read? name = some ⟨[.attribute (String.ofList name)]⟩ := by
  have noDot : ∀ character ∈ name, (character == '.') = false :=
    fun character member => beq_false_of_ne (isName.ne member (by decide))
  have whole : name.span Path.isNameCharacter = (name, []) := by
    rw [Text.span_eq_iff]
    refine ⟨(List.append_nil _).symm, ?_, by simp⟩
    intro character member
    rw [Path.isNameCharacter, Bool.and_eq_true, bne_iff_ne, bne_iff_ne]
    exact ⟨isName.ne member (by decide), isName.ne member (by decide)⟩
  have segment : Path.segment? name = some [.attribute (String.ofList name)] := by
    simp only [Path.segment?, whole]
    rw [if_neg (by simpa using isName.nonempty)]
    rfl
  rw [Path.read?, Text.splitWhere_of_solid noDot, List.mapM_cons, segment]
  rfl

end IsEntryName

def IsEntryName.toName {name : List Char} (isName : IsEntryName name) : Subject.Name where
  text := name
  nonempty := isName.nonempty
  named character member := by
    rw [Subject.isNameCharacter_iff]
    refine ⟨isName.solid character member, isName.noSymbol character member, ?_⟩
    intro enclosure
    exact isName.bare character member (List.mem_append_left ".[]".toList enclosure)

section Comparison

variable {m : Type → Type} {operators : OperatorTable m} {operator : Operator m}
  {subject name gap symbol gap' written content : List Char}

theorem run_symbol {front : List Char} (isWord : Term.IsWord (front ++ symbol))
    (found : operators.symbol? symbol = some operator) (blank : Text.allBlank gap = true)
    (literal : Literal written content) : Run (front ++ symbol ++ gap ++ written) := by
  have noKeyword := OperatorTable.keyword?_append_eq_none found front
  by_cases touches : gap = []
  · rw [touches, List.append_nil]
    exact .word (isWord.append literal.isSeamless) (noKeyword written)
  · apply Run.gap isWord _ blank touches
    · exact .word (literal.isSeamless.isWord literal.isTrimmed.nonempty)
        literal.keyword?_eq_none
    · simpa using noKeyword []

theorem run_comparison (isWord : Term.IsWord subject)
    (noKeyword : Term.keyword? subject = none)
    (found : operators.symbol? symbol = some operator) (blank : Text.allBlank gap = true)
    (blank' : Text.allBlank gap' = true) (literal : Literal written content) :
    Run (subject ++ gap ++ symbol ++ gap' ++ written) := by
  have seamless := OperatorTable.isSeamless_of_symbol? found
  by_cases touches : gap = []
  · rw [touches, List.append_nil]
    exact run_symbol (isWord.append seamless) found blank' literal
  · have isSymbol : Term.IsWord ([] ++ symbol) :=
      seamless.isWord (OperatorTable.symbol_of_symbol? found).1
    have whole :=
      Run.gap isWord noKeyword blank touches (run_symbol isSymbol found blank' literal)
    simpa only [List.append_assoc, List.nil_append] using whole

theorem parts?_comparison (isName : IsEntryName name)
    (found : operators.symbol? symbol = some operator) (blank : Text.allBlank gap = true)
    (blank' : Text.allBlank gap' = true) (literal : Literal written content) :
    Condition.parts? operators (name ++ gap ++ symbol ++ gap' ++ written) =
      some ⟨.path name, name, symbol, written, operator, content⟩ := by
  have spelled := OperatorTable.spelled_of_symbol? found blank blank'
  have reads := (Topic.path isName.toName).reads (spelled.endsPath (gap' ++ written))
  rw [List.append_assoc, List.append_assoc, List.append_assoc]
  exact Condition.parts?_of_symbol reads found blank blank' literal

end Comparison

namespace Evaluator

variable {m : Type → Type} [Monad m] [LawfulMonad m] {vocabulary : Vocabulary m}
  {operator : Operator m} {name gap symbol gap' written content : List Char}

theorem evaluate_entry (isName : IsEntryName name)
    (found : vocabulary.operators.symbol? symbol = some operator)
    (blank : Text.allBlank gap = true) (blank' : Text.allBlank gap' = true)
    (literal : Literal written content) (object : Value) :
    (ofVocabulary vocabulary).evaluate
        (String.ofList (name ++ gap ++ symbol ++ gap' ++ written)) object =
      operator {
        value := object.step? (.attribute (String.ofList name))
        literal := String.ofList content
        tokens := [name, symbol, written].map String.ofList
        context := ⟨String.ofList (name ++ gap ++ symbol ++ gap' ++ written),
          object⟩ } := by
  have isWord := Term.isWord_of_plain isName.nonempty isName.isPlain
  have isLeaf :=
    (run_comparison isWord isName.keyword?_eq_none found blank blank' literal).read_eq
  have parts := parts?_comparison isName found blank blank' literal
  have trimmed := isWord.isTrimmed.append literal.isTrimmed (gap ++ symbol ++ gap')
  simp only [← List.append_assoc] at trimmed
  have followed : object.follow? ⟨[.attribute (String.ofList name)]⟩ =
      object.step? (.attribute (String.ofList name)) := by
    simp [Value.follow?]
  rw [evaluate_of_leaf isLeaf, Condition.evaluate]
  simp only [String.toList_ofList, trimmed.trim_eq, parts, Condition.subjectValue,
    isName.read?_eq, pure_bind, followed]

theorem evaluate_comparison (isName : IsEntryName name)
    (found : vocabulary.operators.symbol? symbol = some operator)
    (blank : Text.allBlank gap = true) (blank' : Text.allBlank gap' = true)
    (content : List Char) (object : Value) :
    (ofVocabulary vocabulary).evaluate
        (String.ofList (name ++ gap ++ symbol ++ gap' ++ quote content)) object =
      operator {
        value := object.step? (.attribute (String.ofList name))
        literal := String.ofList content
        tokens := [name, symbol, quote content].map String.ofList
        context :=
          ⟨String.ofList (name ++ gap ++ symbol ++ gap' ++ quote content), object⟩ } :=
  evaluate_entry isName found blank blank' (.quoted content) object

end Evaluator

/-- A text in an object is equal to a quoted text exactly if it is the text that
was quoted. -/
theorem evaluate_equals_quote {name gap gap' : List Char}
    {entries : List (String × Value)} {stored : String} (isName : IsEntryName name)
    (blank : Text.allBlank gap = true) (blank' : Text.allBlank gap' = true)
    (found : entries.lookup (String.ofList name) = some (.string stored))
    (content : String) :
    evaluate (String.ofList (name ++ gap ++ "=".toList ++ gap' ++ quote content.toList))
      (.map entries) = .ok (decide (stored = content)) := by
  have isEquals :
      (Evaluator.standard : Evaluator Id).vocabulary.operators.symbol? "=".toList =
      some (Operator.equals false) := rfl
  have compared :
      Value.equalsLiteral ((Value.map entries).step? (.attribute (String.ofList name)))
      (String.ofList content.toList) = decide (stored = content) := by
    rw [Value.step?, found, String.ofList_toList]
    change (some stored == some content) = decide (stored = content)
    rw [Option.some_beq_some, beq_eq_decide]
  refine (Evaluator.evaluate_comparison isName isEquals blank blank' content.toList
    _).trans ?_
  exact congrArg Except.ok compared

theorem evaluate_equals_quote_of_structure :
    IsEntryName "Andy".toList ∧
      evaluate "Andy\t=\"x\\\") OR NOT (\\\\\\\"\""
        (.map [("Andy", .string "x\") OR NOT (\\\"")]) = .ok true ∧
      evaluate "Andy\t=\"x\\\") OR NOT (\\\\\\\"\"" (.map [("Andy", .string "x")]) =
        .ok false := by
  have letters : ∀ character ∈ "Andy".toList,
      character = 'A' ∨ character = 'n' ∨ character = 'd' ∨ character = 'y' := by simp
  have isName : IsEntryName "Andy".toList := by
    refine ⟨by decide, ?_, ?_, ?_, by decide⟩ <;>
      · intro character member
        rcases letters character member with rfl | rfl | rfl | rfl <;> decide
  have blank : Text.allBlank "\t".toList = true := by decide
  have nothing : Text.allBlank [] = true := List.all_nil
  have same : [("Andy", Value.string "x\") OR NOT (\\\"")].lookup
      (String.ofList "Andy".toList) = some (.string "x\") OR NOT (\\\"") := rfl
  have other : [("Andy", Value.string "x")].lookup (String.ofList "Andy".toList) =
      some (.string "x") := rfl
  exact ⟨isName, evaluate_equals_quote isName blank nothing same "x\") OR NOT (\\\"",
    evaluate_equals_quote isName blank nothing other "x\") OR NOT (\\\""⟩

end Criteria
