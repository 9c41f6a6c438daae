import Criteria.Evaluator
import Criteria.Proofs.Operator.Table

/-!
What conditions see of the expression that they stand in.

Operators and functions are given the text of the whole expression. Those of the
standard vocabulary make no use of it, so there a condition has the same value in
every expression.
-/

namespace Criteria

/-! ## Properties of everything in a table -/

def AllEntries {α : Type} (property : α → Prop) (entries : Std.TreeMap String α compare) :
    Prop :=
  ∀ (key : String) entry, entries[key]? = some entry → property entry

theorem allEntries_empty {α : Type} {property : α → Prop} : AllEntries property ∅ := by
  intro key entry found
  simp at found

theorem AllEntries.insert {α : Type} {property : α → Prop}
    {entries : Std.TreeMap String α compare} {entry : α}
    (all : AllEntries property entries) (holds : property entry) (key : String) :
    AllEntries property (entries.insert key entry) := by
  intro other found lookup
  rw [Std.TreeMap.getElem?_insert] at lookup
  split at lookup
  · cases lookup
    exact holds
  · exact all other found lookup

variable {m : Type → Type}

namespace OperatorTable

variable {property : Operator m → Prop} {table : OperatorTable m} {operator : Operator m}

def All (property : Operator m → Prop) (table : OperatorTable m) : Prop :=
  AllEntries (fun entry => property entry.operator) table.entries

theorem all_empty : (empty : OperatorTable m).All property :=
  allEntries_empty

theorem All.insert (all : table.All property) (holds : property operator)
    (name : String) :
    (table.insert name operator).All property :=
  AllEntries.insert all holds (Operator.normalize name)

theorem property_of_ofKind? {kind : Operator.Kind} {key : String}
    (all : table.All property) (found : table.ofKind? kind key = some operator) :
    property operator :=
  all _ _ (ofKind?_eq_some_iff.mp found)

end OperatorTable

theorem Condition.property_of_operator? {property : Operator m → Prop}
    {operators : OperatorTable m} {text : List Char}
    {found : List Char × Operator m × List Char} (all : operators.All property)
    (lookup : operator? operators text = some found) :
    property found.2.1 := by
  unfold operator? at lookup
  split at lookup
  · rw [Option.map_eq_some_iff] at lookup
    rcases lookup with ⟨operator, isSymbol, rfl⟩
    exact OperatorTable.property_of_ofKind? all isSymbol
  · rcases List.exists_of_findSome?_eq_some lookup with ⟨phrase, _, isFound⟩
    rw [Option.map_eq_some_iff] at isFound
    rcases isFound with ⟨operator, isKeyword, rfl⟩
    exact OperatorTable.property_of_ofKind? all isKeyword

theorem Condition.property_of_parts? {property : Operator m → Prop}
    {operators : OperatorTable m} {text : List Char} {parts : Parts m}
    (all : operators.All property) (found : parts? operators text = some parts) :
    property parts.operator := by
  simp only [parts?, Option.bind_eq_bind, Option.bind_eq_some_iff, Option.pure_def,
    Option.some.injEq] at found
  rcases found with ⟨subject, _, ⟨operatorText, operator, after⟩, lookup, literal, _, rfl⟩
  exact property_of_operator? all lookup

theorem Operator.standard_all [Monad m] {property : Operator m → Prop}
    (ofEquals : ∀ negated, property (equals negated))
    (ofOrdered : ∀ accepted, property (ordered accepted))
    (ofIs : ∀ negated, property (is negated))
    (ofIsIn : ∀ negated, property (isIn negated)) :
    (standard : OperatorTable m).All property :=
  OperatorTable.all_empty
    |>.insert (ofEquals false) _
    |>.insert (ofEquals true) _
    |>.insert (ofOrdered [.gt]) _
    |>.insert (ofOrdered [.gt, .eq]) _
    |>.insert (ofOrdered [.lt]) _
    |>.insert (ofOrdered [.lt, .eq]) _
    |>.insert (ofIs false) _
    |>.insert (ofIs true) _
    |>.insert (ofIsIn false) _
    |>.insert (ofIsIn true) _

/-! ## The expression around a condition -/

def Operator.IgnoresExpression (operator : Operator m) : Prop :=
  ∀ input expression,
    operator { input with context.expression := expression } = operator input

def ValueFunction.IgnoresExpression (function : ValueFunction m) : Prop :=
  ∀ input expression,
    function { input with context.expression := expression } = function input

structure Vocabulary.IgnoresExpression (vocabulary : Vocabulary m) : Prop where
  operators : vocabulary.operators.All Operator.IgnoresExpression
  functions : AllEntries ValueFunction.IgnoresExpression vocabulary.functions.entries

variable [Monad m]

namespace Operator

theorem equals_ignoresExpression (negated : Bool) :
    (equals negated : Operator m).IgnoresExpression :=
  fun _ _ => rfl

theorem ordered_ignoresExpression (accepted : List Ordering) :
    (ordered accepted : Operator m).IgnoresExpression :=
  fun _ _ => rfl

theorem is_ignoresExpression (negated : Bool) :
    (is negated : Operator m).IgnoresExpression :=
  fun _ _ => rfl

theorem isIn_ignoresExpression (negated : Bool) :
    (isIn negated : Operator m).IgnoresExpression :=
  fun _ _ => rfl

theorem standard_ignoresExpression :
    (standard : OperatorTable m).All Operator.IgnoresExpression :=
  standard_all equals_ignoresExpression ordered_ignoresExpression is_ignoresExpression
    isIn_ignoresExpression

end Operator

theorem ValueFunction.standard_ignoresExpression :
    AllEntries ValueFunction.IgnoresExpression (standard : FunctionTable m).entries :=
  allEntries_empty.insert (fun _ _ => rfl) _

theorem Vocabulary.standard_ignoresExpression :
    (Evaluator.standard : Evaluator m).vocabulary.IgnoresExpression where
  operators := Operator.standard_ignoresExpression
  functions := ValueFunction.standard_ignoresExpression

namespace Condition

theorem subjectValue_ignoresExpression {functions : FunctionTable m}
    (ignores : AllEntries ValueFunction.IgnoresExpression functions.entries)
    (context : Context) (expression condition : String) (subject : Subject) :
    subjectValue functions { context with expression } condition subject =
      subjectValue functions context condition subject := by
  cases subject with
  | quoted text => rfl
  | path text => rfl
  | call name arguments =>
      rw [subjectValue, subjectValue]
      cases Subject.arguments? arguments with
      | none => rfl
      | some arguments =>
          cases found : functions.get? (String.ofList name) with
          | none => rfl
          | some function =>
              have same := ignores _ function found
                { arguments := arguments.map String.ofList, context } expression
              exact congrArg (· >>= _) same

theorem evaluate_ignoresExpression {vocabulary : Vocabulary m}
    (ignores : vocabulary.IgnoresExpression) (context : Context)
    (expression condition : String) :
    evaluate vocabulary { context with expression } condition =
      evaluate vocabulary context condition := by
  rw [evaluate, evaluate]
  cases found : parts? vocabulary.operators (Text.trim condition.toList) with
  | none => rfl
  | some parts =>
      simp only [subjectValue_ignoresExpression ignores.functions]
      apply bind_congr
      intro value
      exact property_of_parts? ignores.operators found { value, context, .. } expression

end Condition

end Criteria
