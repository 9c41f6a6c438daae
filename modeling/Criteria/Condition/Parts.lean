import Criteria.Condition.Subject

/-!
Taking a condition apart: a subject, an operator, and a literal.

If a symbol character follows the subject, the operator is the whole run of symbol
characters there. Otherwise it is the longest keyword name that the words there spell.
The rest of the condition is the literal; the choice of the operator is final, whether
or not the rest is acceptable.
-/

namespace Criteria

structure Condition.Parts (m : Type → Type) where
  subject : Subject
  subjectText : List Char
  operatorText : List Char
  literalText : List Char
  operator : Operator m
  literal : List Char

namespace Condition

variable {m : Type → Type}

/-! ## The operator -/

/-- Words at the start of a text: the text that they take, the words, and the text
after them. -/
structure Phrase where
  text : List Char
  words : List (List Char)
  after : List Char

/-- The phrases at the start of a text, which has no blank there: those of one word, of
two, and so on, up to `limit` words. -/
def phrases (limit : Nat) (text : List Char) : List Phrase :=
  match limit with
  | 0 => []
  | limit + 1 =>
      let (word, afterWord) := text.span (!isBlank ·)
      if word.isEmpty then []
      else
        let (blanks, next) := afterWord.span isBlank
        ⟨word, [word], afterWord⟩ :: (phrases limit next).map fun phrase =>
          ⟨word ++ blanks ++ phrase.text, word :: phrase.words, phrase.after⟩

def operator? (operators : OperatorTable m) (text : List Char) :
    Option (List Char × Operator m × List Char) :=
  if text.head?.any isSymbolCharacter then
    let (symbol, after) := text.span isSymbolCharacter
    (operators.symbol? symbol).map fun operator => (symbol, operator, after)
  else
    (phrases operators.longestKeyword text).reverse.findSome? fun phrase =>
      (operators.keyword? phrase.words).map fun operator =>
        (phrase.text, operator, phrase.after)

/-! ## The literal -/

/-- A word that is no part of a literal of several words: it looks as if another
condition started there. -/
def isReserved (operators : OperatorTable m) (word : List Char) : Bool :=
  Text.caseless word "NOT".toList || operators.beginsKeyword word ||
    (Text.splitWhere (!isSymbolCharacter ·) word).any fun run =>
      !run.isEmpty && (operators.symbol? run).isSome

/-- What a literal, trimmed, stands for. A literal is quoted, or it is one word or
several; then it has no quotes and no parentheses, and the blanks between its words
count as one space. -/
def literal? (operators : OperatorTable m) (text : List Char) : Option (List Char) :=
  if text.isEmpty then none
  else if text.head? = some '"' then Text.unquote? text
  else if text.any fun character => "\"()".toList.contains character then none
  else if text.any isBlank then
    let words := Text.words text
    if words.any (isReserved operators) then none else some (Text.joinWords words)
  else some text

/-! ## All three -/

def parts? (operators : OperatorTable m) (text : List Char) : Option (Parts m) := do
  let (subject, subjectText, afterSubject) ← Subject.read? text
  let (operatorText, operator, afterOperator) ← operator? operators
    (Text.trimStart afterSubject)
  let literalText := Text.trim afterOperator
  let literal ← literal? operators literalText
  return { subject, subjectText, operatorText, literalText, operator, literal }

end Condition

end Criteria
