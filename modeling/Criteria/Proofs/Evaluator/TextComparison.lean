import Criteria.Proofs.Evaluator.IntegerComparison
import Criteria.Proofs.Evaluator.Membership
import Criteria.Proofs.Number.Numeral

/-!
The order of texts.

Two texts that both spell numbers are in the order of the numbers, and any other two are
in the order of their characters. In both cases there is an order, and it turns round
when the two texts change places; so the four relations of order are fixed by two of
them that exclude each other. A value that is neither a text nor a number is in no order
to any literal.
-/

namespace Criteria

open Text (quote)

/-! ## Characters -/

def Text.codePoints (text : String) : List Nat :=
  text.toList.map Char.toNat

theorem Text.codePoints_lt_iff {left right : String} :
    codePoints left < codePoints right ↔ left < right := by
  suffices onCharacters : ∀ left right : List Char,
      left.map Char.toNat < right.map Char.toNat ↔ left < right from onCharacters _ _
  intro left
  induction left with
  | nil =>
      intro right
      cases right <;> simp
  | cons character rest induction =>
      intro right
      cases right with
      | nil => simp
      | cons other others =>
          simp only [List.map_cons, List.cons_lt_cons_iff, induction, Char.toNat_inj]
          exact Iff.rfl

/-! ## Texts -/

namespace Value

variable {stored content : String} {left right : Number}

theorem orderLiteral?_of_numbers (found : Number.read? stored.toList = some left)
    (found' : Number.read? content.toList = some right) :
    orderLiteral? (some (.string stored)) content = left.order? right := by
  simp only [orderLiteral?, found, found']

theorem orderLiteral?_of_noNumber
    (noNumber : Number.read? stored.toList = none ∨ Number.read? content.toList = none) :
    orderLiteral? (some (.string stored)) content = some (compare stored content) := by
  simp only [orderLiteral?]
  split
  · rename_i found found'
    rw [found, found'] at noNumber
    rcases noNumber with none | none <;> cases none
  · rfl

def isOrdered : Value → Bool
  | .number _ | .string _ => true
  | _ => false

theorem exists_orderLiteral? (stored content : String) :
    ∃ order, orderLiteral? (some (.string stored)) content = some order ∧
      orderLiteral? (some (.string content)) stored = some order.swap := by
  cases found : Number.read? stored.toList with
  | none =>
      rw [orderLiteral?_of_noNumber (.inl found), orderLiteral?_of_noNumber (.inr found)]
      exact ⟨_, rfl, congrArg some Std.OrientedOrd.eq_swap⟩
  | some left =>
      cases found' : Number.read? content.toList with
      | none =>
          rw [orderLiteral?_of_noNumber (.inr found'),
            orderLiteral?_of_noNumber (.inl found')]
          exact ⟨_, rfl, congrArg some Std.OrientedOrd.eq_swap⟩
      | some right =>
          rcases Number.exists_order? (Number.isNumber_of_read? found)
            (Number.isNumber_of_read? found') with ⟨order, isOrder⟩
          rw [orderLiteral?_of_numbers found found',
            orderLiteral?_of_numbers found' found, left.order?_swap right, isOrder]
          exact ⟨order, rfl, rfl⟩

end Value

/-! ## Relations -/

namespace Relation

def name (relation : Relation) : String :=
  String.ofList relation.symbol

def converse : Relation → Relation
  | .equal => .equal
  | .unequal => .unequal
  | .less => .greater
  | .lessOrEqual => .greaterOrEqual
  | .greater => .less
  | .greaterOrEqual => .lessOrEqual

def answer (relation : Relation) (value : Option Value) (literal : String) : Bool :=
  match relation with
  | .equal => Value.equalsLiteral value literal
  | .unequal => value.isSome && !Value.equalsLiteral value literal
  | .less => (Value.orderLiteral? value literal).any Ordering.isLT
  | .lessOrEqual => (Value.orderLiteral? value literal).any Ordering.isLE
  | .greater => (Value.orderLiteral? value literal).any Ordering.isGT
  | .greaterOrEqual => (Value.orderLiteral? value literal).any Ordering.isGE

theorem operator_eq_answer {m : Type → Type} [Monad m] (relation : Relation)
    (input : Operator.Input) :
    (relation.operator : Operator m) input =
      pure (relation.answer input.value input.literal) := by
  cases relation with
  | equal => rfl
  | unequal => rfl
  | _ =>
      simp only [operator, Operator.ordered, answer]
      cases Value.orderLiteral? input.value input.literal with
      | none => rfl
      | some order => cases order <;> rfl

theorem fits (relation : Relation) (rest : List Char) :
    Operator.Fits relation.name relation.operator rest := by
  cases relation <;> exact Operator.fits_of_ne_is rfl (by decide)

theorem answer_converse (relation : Relation) (stored content : String) :
    relation.answer (some (.string content)) stored =
      relation.converse.answer (some (.string stored)) content := by
  rcases Value.exists_orderLiteral? stored content with ⟨order, isOrder, isOrder'⟩
  have equal : Value.equalsLiteral (some (.string content)) stored =
      Value.equalsLiteral (some (.string stored)) content := by
    simp only [Value.equalsLiteral, Value.literal?]
    exact BEq.comm
  cases relation with
  | equal => exact equal
  | unequal => exact congrArg (true && !·) equal
  | _ =>
      simp only [answer, converse, isOrder, isOrder']
      cases order <;> rfl

theorem answer_eq_false {relation : Relation} {value : Option Value}
    (ordering : relation ∈ [.less, .lessOrEqual, .greater, .greaterOrEqual])
    (unordered : ∀ stored ∈ value, stored.isOrdered = false) (literal : String) :
    relation.answer value literal = false := by
  have none : Value.orderLiteral? value literal = none := by
    match value with
    | none | some .null | some (.bool _) | some (.list _) | some (.map _) => rfl
    | some (.number _) | some (.string _) => cases unordered _ rfl
  cases relation with
  | equal | unequal => simp at ordering
  | _ => simp only [answer, none, Option.any_none]

end Relation

theorem Asks.evaluate_relation {subject : Subject.Name} {relation : Relation}
    {path : Path} {rest whole literal : List Char}
    (asks : Asks subject relation.name rest whole)
    (noKeyword : Term.keyword? subject.text = none)
    (isPath : Path.read? subject.text = some path) (unconnected : Unconnected rest)
    (isLiteral :
      Condition.literal? (Operator.standard : OperatorTable Id) (Text.trim rest) =
      some literal)
    (object : Value) :
    evaluate (String.ofList whole) object =
      .ok (relation.answer (object.get? (String.ofList subject.text))
        (String.ofList literal)) := by
  rcases asks.evaluate_eq_ok_iff (relation.fits rest) noKeyword unconnected object with
    ⟨tokens, decided⟩
  rw [decided, Value.get?_of_read? isPath]
  exact ⟨path, literal, isPath, isLiteral, relation.operator_eq_answer _⟩

theorem Asks.evaluate_relation_quote {subject : Subject.Name} {relation : Relation}
    {path : Path} {content : String} {whole : List Char}
    (asks : Asks subject relation.name (quote content.toList) whole)
    (noKeyword : Term.keyword? subject.text = none)
    (isPath : Path.read? subject.text = some path) {object value : Value}
    (found : object.get? (String.ofList subject.text) = some value) :
    evaluate (String.ofList whole) object =
      .ok (relation.answer (some value) content) := by
  refine asks.evaluate_quote (relation.fits _) noKeyword isPath fun tokens context => ?_
  rw [relation.operator_eq_answer, ← Value.get?_of_read? isPath, found,
    String.ofList_toList]
  rfl

/-- At most one of the strict orders holds, and the other two are their negations. -/
structure OrderConsistent (answer : Relation → Bool) : Prop where
  exclusive : (answer .less && answer .greater) = false
  lessOrEqual_eq : answer .lessOrEqual = !answer .greater
  greaterOrEqual_eq : answer .greaterOrEqual = !answer .less

theorem Relation.orderConsistent (stored content : String) :
    OrderConsistent fun relation => relation.answer (some (.string stored)) content := by
  rcases Value.exists_orderLiteral? stored content with ⟨order, isOrder, _⟩
  constructor <;>
    · simp only [answer, isOrder, Option.any_some]
      cases order <;> rfl

structure OrdersNumbers (answer : Relation → Bool) (left right : Number) : Prop where
  less_eq : answer .less = left.less right
  lessOrEqual_eq : answer .lessOrEqual = left.lessOrSame right
  greater_eq : answer .greater = right.less left
  greaterOrEqual_eq : answer .greaterOrEqual = right.lessOrSame left

theorem Relation.ordersNumbers {stored content : String} {left right : Number}
    (found : Number.read? stored.toList = some left)
    (found' : Number.read? content.toList = some right) :
    OrdersNumbers (fun relation => relation.answer (some (.string stored)) content) left
      right := by
  rcases Number.exists_order? (Number.isNumber_of_read? found)
    (Number.isNumber_of_read? found') with ⟨order, isOrder⟩
  have compared := Value.orderLiteral?_of_numbers found found'
  rw [isOrder] at compared
  constructor <;>
    · simp only [answer, compared, Option.any_some, Number.lessOrSame, Number.less,
        Number.same, left.order?_swap right, isOrder]
      cases order <;> rfl

structure OrdersTexts (answer : Relation → Bool) (left right : String) : Prop where
  less_iff : answer .less = true ↔ Text.codePoints left < Text.codePoints right
  greater_iff : answer .greater = true ↔ Text.codePoints right < Text.codePoints left
  both_eq : (answer .lessOrEqual && answer .greaterOrEqual) = answer .equal

theorem Relation.ordersTexts {stored content : String}
    (noNumber : Number.read? stored.toList = none ∨ Number.read? content.toList = none) :
    OrdersTexts (fun relation => relation.answer (some (.string stored)) content) stored
      content := by
  have compared := Value.orderLiteral?_of_noNumber noNumber
  constructor
  case less_iff =>
    simp only [answer, compared, Option.any_some, Text.codePoints_lt_iff,
      Ordering.isLT_iff_eq_lt]
    exact compareOfLessAndEq_eq_lt
  case greater_iff =>
    simp only [answer, compared, Option.any_some, Text.codePoints_lt_iff,
      Ordering.isGT_iff_eq_gt]
    rw [Std.OrientedOrd.eq_swap (a := stored), Ordering.swap_eq_gt]
    exact compareOfLessAndEq_eq_lt
  case both_eq =>
    simp only [answer, compared, Option.any_some, Value.equalsLiteral, Value.literal?]
    have same : compare stored content = .eq ↔
        stored = content := Std.LawfulEqOrd.compare_eq_iff_eq
    rw [Bool.eq_iff_iff, beq_iff_eq, Option.some_inj, ← same]
    cases compare stored content <;> decide

/-- A text at a path and a quoted literal are in an order, which turns round when the
two texts change places. If both spell numbers it is the order of the numbers, otherwise
that of their characters. Where there is no value, or none that is a text or a number,
no relation of order holds, whatever the literal is. -/
theorem evaluate_text_order {subject : Subject.Name} {path : Path}
    (noKeyword : Term.keyword? subject.text = none)
    (isPath : Path.read? subject.text = some path) :
    (∀ stored content : String, ∃ answer converse : Relation → Bool,
      (∀ object whole relation,
        object.get? (String.ofList subject.text) = some (.string stored) →
        Asks subject relation.name (quote content.toList) whole →
        evaluate (String.ofList whole) object = .ok (answer relation)) ∧
      (∀ object whole relation,
        object.get? (String.ofList subject.text) = some (.string content) →
        Asks subject relation.name (quote stored.toList) whole →
        evaluate (String.ofList whole) object = .ok (converse relation)) ∧
      OrderConsistent answer ∧
      (∀ relation, converse relation = answer relation.converse) ∧
      (∀ left right, Number.read? stored.toList = some left →
        Number.read? content.toList = some right → OrdersNumbers answer left right) ∧
      (Number.read? stored.toList = none ∨ Number.read? content.toList = none →
        OrdersTexts answer stored content)) ∧
    ∀ object, (∀ value ∈ object.get? (String.ofList subject.text),
      value.isOrdered = false) →
      ∀ relation : Relation, relation ∈ [.less, .lessOrEqual, .greater, .greaterOrEqual] →
      ∀ rest literal whole, Unconnected rest →
        Condition.literal? (Operator.standard : OperatorTable Id) (Text.trim rest) =
          some literal →
        Asks subject relation.name rest whole →
        evaluate (String.ofList whole) object = .ok false := by
  refine ⟨fun stored content =>
    ⟨fun relation => relation.answer (some (.string stored)) content, fun relation =>
      relation.answer (some (.string content)) stored,
      fun object whole relation found asks => ?_, fun object whole relation found asks =>
      ?_, Relation.orderConsistent stored content, ?_, fun left right =>
      Relation.ordersNumbers, Relation.ordersTexts⟩, ?_⟩
  · exact asks.evaluate_relation_quote noKeyword isPath found
  · exact asks.evaluate_relation_quote noKeyword isPath found
  · exact fun relation => relation.answer_converse stored content
  · intro object unordered relation ordering rest literal whole unconnected isLiteral asks
    rw [asks.evaluate_relation noKeyword isPath unconnected isLiteral,
      Relation.answer_eq_false ordering unordered]

theorem evaluate_text_order_of_numerals :
    evaluate "a > \"9\"" (.map [("a", .string "1e1")]) = .ok true ∧
      evaluate "a<=\"9\"" (.map [("a", .string "1e1")]) = .ok false ∧
      evaluate "a <\"1e1\"" (.map [("a", .string "9")]) = .ok true ∧
      evaluate "a <= inf" (.map [("a", .bool true)]) = .ok false := by
  have named : "a".toList.all Subject.isNameCharacter = true := by decide
  have noKeyword : Term.keyword? "a".toList = none := by decide
  have isPath : Path.read? "a".toList = some ⟨[.attribute "a"]⟩ := by decide +kernel
  have nothing : Text.allBlank [] = true := List.all_nil
  have space : Text.allBlank " ".toList = true := by decide
  have isGreater : evaluate "a > \"9\"" (.map [("a", .string "1e1")]) = .ok true := by
    decide +kernel
  have unconnected : Unconnected "inf".toList := by
    have named' : "inf".toList.all Subject.isNameCharacter = true := by decide
    have isWord : Term.IsWord "inf".toList :=
      Subject.Name.isWord ⟨"inf".toList, by decide, List.all_eq_true.mp named'⟩
    exact unconnected_of_word isWord fun connective => by cases connective <;> decide
  have found (value : Value) : (Value.map [("a", value)]).get? "a" = some value := by
    rw [Value.get?, isPath]
    rfl
  have compared :=
    @evaluate_text_order ⟨"a".toList, by decide, List.all_eq_true.mp named⟩ _
    noKeyword isPath
  rcases compared with ⟨texts, others⟩
  rcases texts "1e1" "9" with
    ⟨answer, converse, isAnswer, isConverse, consistent, turned, _, _⟩
  have greater := isAnswer _ _ .greater (found _)
    (.intro (.symbol (by decide) space space) (.inl (by decide)))
  have lessOrEqual := isAnswer _ _ .lessOrEqual (found _)
    (.intro (.symbol (by decide) nothing nothing) (.inr ⟨_, rfl⟩))
  have less := isConverse _ _ .less (found _)
    (.intro (.symbol (by decide) space nothing) (.inr ⟨_, rfl⟩))
  have unordered := others (.map [("a", .bool true)])
    (fun value isValue => Option.mem_unique (found _) isValue ▸ rfl) .lessOrEqual
    (by decide) "inf".toList "inf".toList _ unconnected (by decide +kernel)
    (.intro (.symbol (by decide) space space) (.inl (by decide)))
  have answerGreater := Except.ok.inj (greater.symm.trans isGreater)
  refine ⟨isGreater, lessOrEqual.trans ?_, less.trans ?_, ?_⟩
  · rw [consistent.lessOrEqual_eq, answerGreater]
    rfl
  · rw [turned]
    exact congrArg Except.ok answerGreater
  · exact unordered

end Criteria
