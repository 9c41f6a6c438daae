import Criteria.Proofs.Condition.Written
import Criteria.Proofs.Term.Word

/-!
Literals without a blank outside quotes, and the symbols in front of them.

Such a literal is quoted or it is a bare word. A symbol may touch the subject before
it and the literal behind it: wherever the gaps are, the condition is taken apart into
the same parts.
-/

namespace Criteria

open Text (quote)
open Term (IsPlain IsSeamless)

/-- How a literal is written, and what it stands for. -/
inductive Literal : List Char → List Char → Prop
  | quoted (content : List Char) : Literal (quote content) content
  | bare {text : List Char} (nonempty : text ≠ [])
      (plain : ∀ character ∈ text, IsPlain character)
      (noSymbol : ∀ first ∈ text.head?, isSymbolCharacter first = false)
      (noKeyword : Term.keyword? text = none) : Literal text text

namespace Literal

variable {written content : List Char}

theorem isTrimmed (literal : Literal written content) : Text.IsTrimmed written := by
  cases literal with
  | quoted content => exact Text.isTrimmed_quote content
  | bare nonempty plain =>
      exact Text.isTrimmed_of_solid nonempty fun character member =>
        (plain character member).solid

theorem isSeamless (literal : Literal written content) : IsSeamless written := by
  cases literal with
  | quoted content => exact Term.isSeamless_quote content
  | bare _ plain => exact Term.isSeamless_of_plain plain

theorem keyword?_eq_none (literal : Literal written content) :
    Term.keyword? written = none := by
  cases literal with
  | quoted content => exact Term.keyword?_eq_none List.mem_cons_self (by decide)
  | bare _ _ _ noKeyword => exact noKeyword

theorem noSymbol (literal : Literal written content) :
    ∀ first ∈ written.head?, isSymbolCharacter first = false := by
  cases literal with
  | quoted content =>
      rintro first ⟨⟩
      decide
  | bare _ _ noSymbol => exact noSymbol

theorem literal?_eq {m : Type → Type} (operators : OperatorTable m)
    (literal : Literal written content) :
    Condition.literal? operators written = some content := by
  cases literal with
  | quoted content => exact Condition.literal?_quote operators content
  | bare nonempty plain =>
      have noQuote : written.head? ≠ some '"' := fun isHead =>
        (plain '"' (List.mem_of_mem_head? isHead)).notQuote rfl
      have bare : ¬ (written.any fun character => "\"()".toList.contains character) =
          true := by
        rw [List.any_eq_true]
        rintro ⟨character, member, isBracket⟩
        have isPlain := plain character member
        simp [isPlain.notQuote, isPlain.notOpen, isPlain.notClose] at isBracket
      have solid : ¬ written.any isBlank = true := by
        rw [List.any_eq_true]
        rintro ⟨character, member, blank⟩
        rw [(plain character member).solid] at blank
        cases blank
      rw [Condition.literal?, if_neg (by simpa using nonempty), if_neg noQuote,
        if_neg bare, if_neg solid]

end Literal

/-! ## Symbols -/

variable {m : Type → Type} {operators : OperatorTable m} {operator : Operator m}
  {gap symbol gap' written content : List Char}

theorem OperatorTable.isSeamless_of_symbol?
    (found : operators.symbol? symbol = some operator) :
    IsSeamless symbol :=
  Term.isSeamless_of_plain fun character member =>
    isPlain_of_isSymbolCharacter ((symbol_of_symbol? found).2 character member)

theorem OperatorTable.keyword?_append_eq_none
    (found : operators.symbol? symbol = some operator) (before after : List Char) :
    Term.keyword? (before ++ symbol ++ after) = none := by
  rcases symbol_of_symbol? found with ⟨nonempty, isSymbol⟩
  rcases List.exists_mem_of_ne_nil symbol nonempty with ⟨character, member⟩
  exact keyword?_eq_none_of_symbol (by simp [member]) (isSymbol character member)

theorem OperatorTable.spelled_of_symbol?
    (found : operators.symbol? symbol = some operator) (blank : Text.allBlank gap = true)
    (blank' : Text.allBlank gap' = true) :
    Operator.Spelled (String.ofList symbol) gap symbol gap' := by
  have symbolic := isSymbol_of_symbol? found
  have trimmed := (Operator.isTrimmed_of_isSymbol symbolic).trim_eq
  have spelled :=
    Operator.Spelled.symbol (Operator.kind_of_isSymbol symbolic) blank blank'
  rw [String.toList_ofList, trimmed] at spelled
  exact spelled

theorem Condition.parts?_of_symbol {whole subjectText : List Char} {subject : Subject}
    (reads : Subject.Reads whole subject subjectText
      (gap ++ (symbol ++ (gap' ++ written))))
    (found : operators.symbol? symbol = some operator) (blank : Text.allBlank gap = true)
    (blank' : Text.allBlank gap' = true) (literal : Literal written content) :
    parts? operators whole =
      some ⟨subject, subjectText, symbol, written, operator, content⟩ := by
  have spelled := OperatorTable.spelled_of_symbol? found blank blank'
  have isOperator : operator? operators (symbol ++ (gap' ++ written)) =
      some (symbol, operator, gap' ++ written) := by
    apply operator?_of_symbol found
    intro next isHead
    rcases Text.isBlank_or_mem_head? blank' isHead with blankNext | isFirst
    · exact isSymbolCharacter_of_isBlank blankNext
    · exact literal.noSymbol next isFirst
  have isLiteral : Text.trim (gap' ++ written) = written := by
    have trimmed := Text.trim_eq blank' List.all_nil literal.isTrimmed
    rw [List.append_nil] at trimmed
    exact trimmed
  rw [parts?, reads.read?_eq]
  simp only [Option.bind_eq_bind, Option.bind_some, spelled.trimStart_eq, isOperator,
    isLiteral, literal.literal?_eq]
  rfl

end Criteria
