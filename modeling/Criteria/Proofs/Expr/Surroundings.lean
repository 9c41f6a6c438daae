import Criteria.Proofs.Expr.Composition

/-!
Groups and what surrounds them.

A group stands at an operand if everything to its left is an expression and a
connective, or nothing, with any number of `NOT`s after it. Then nothing to its left is
at fault, and what is to its right comes later, so a fault in the group is the first
fault of the whole text. It is the fault that the text in the group has alone: a fault
quotes the level that it is in and nothing around that level.
-/

namespace Criteria

open Level (Faults)
open Nesting (parenthesize)
open Term (Tiled)

namespace Expr

/-- The texts after which an operand is to come, with no fault in them. -/
inductive LeadsUp : List Char → Prop
  | start : LeadsUp []
  | connective {left : List Char} {expr : Expr} (connective : Connective)
      (result : read left = .ok expr) : LeadsUp (left ++ connective.link)
  | negation {front : List Char} (leads : LeadsUp front) :
      LeadsUp (front ++ "NOT ".toList)

/-- The terms of such a text go on with those of any other text, and they leave a fault
at the start of that text the first one. -/
structure Front (text : List Char) (terms : List Term) : Prop where
  tiled : ∀ {rest : List Char} {others : List Term},
    Tiled (Text.byteSize text) rest others →
    Tiled 0 (text ++ rest) (terms ++ others)
  faults : ∀ {level : String} {others : List Term} {error : EvaluationError},
    Faults .operand level others error → Faults .chain level (terms ++ others) error

theorem front_nil : Front [] [] where
  tiled tiled := tiled
  faults faults := .first faults

theorem front_link {left : List Char} {expr : Expr} (connective : Connective)
    (result : read left = .ok expr) : ∃ terms, Front (left ++ connective.link) terms := by
  rcases read_eq_ok_iff.mp result with ⟨terms, tiled, reads⟩
  refine ⟨terms ++
    [⟨.connective connective, Text.byteSize left + 1, connective.spelling⟩], ?_, ?_⟩
  · intro rest others tiledNext
    rw [List.append_assoc terms]
    exact tiled.link connective tiledNext
  · intro level others error faults
    rw [List.append_assoc]
    exact .later reads rfl faults

theorem Front.negation {text : List Char} {terms : List Term} (front : Front text terms) :
    Front (text ++ "NOT ".toList)
      (terms ++ [⟨.negation, Text.byteSize text, "NOT".toList⟩]) where
  tiled {rest others} tiledNext := by
    rw [Text.byteSize_append] at tiledNext
    have keyword : Tiled (Text.byteSize text) ("NOT".toList ++ (" ".toList ++ rest))
        (⟨.negation, Text.byteSize text, "NOT".toList⟩ :: others) :=
      Tiled.keyword rfl (by decide) (.inl (by decide)) tiledNext
    rw [List.append_assoc, List.append_assoc]
    exact front.tiled keyword
  faults faults := by
    rw [List.append_assoc]
    exact front.faults (.negation rfl faults)

theorem LeadsUp.exists_front {text : List Char} (leads : LeadsUp text) :
    ∃ terms, Front text terms := by
  induction leads with
  | start => exact ⟨[], front_nil⟩
  | connective connective result => exact front_link connective result
  | negation _ induction =>
      rcases induction with ⟨terms, front⟩
      exact ⟨_, front.negation⟩

theorem faults_parenthesize {text : List Char} {error : EvaluationError}
    (isLevel : IsLevel text) (result : read text = .error error) (level : String)
    (start : Nat) (others : List Term) :
    Faults .operand level (⟨.group, start, parenthesize text⟩ :: others) error := by
  rcases isLevel.splits with ⟨terms, splits⟩
  have faults := (Level.readPart_eq_error_iff splits isLevel.filled).mp result
  have moved := (Term.split_eq_ok_iff.mp splits).shift (start + 1)
  have inside := Term.inner_parenthesize .group start text
  have isFilled := isLevel.filled
  have faultsInside := faults.shift (start + 1)
  rw [← inside] at moved isFilled faultsInside
  exact .insideGroup rfl isFilled (Term.split_eq_ok_iff.mpr moved) faultsInside

/-- A group in the place of an operand reports the fault that its text has alone,
whatever follows the group and however many faults are in that. -/
theorem read_error_of_group {front text gap rest : List Char} {error : EvaluationError}
    {others : List Term} (leads : LeadsUp front) (isLevel : IsLevel text)
    (result : read text = .error error) (blank : Text.allBlank gap = true)
    (splits : Term.split 0 rest = .ok others) :
    read (front ++ parenthesize text ++ gap ++ rest) = .error error := by
  rcases leads.exists_front with ⟨terms, isFront⟩
  have moved := (Term.split_eq_ok_iff.mp splits).shift
    (Text.byteSize front + Text.byteSize (parenthesize text) + Text.byteSize gap)
  generalize others.map _ = after at moved
  have group : Tiled (Text.byteSize front) (parenthesize text ++ (gap ++ rest))
      (⟨.group, Text.byteSize front, parenthesize text⟩ :: after) :=
    .group isLevel.balanced (.blanks blank moved)
  have whole := Term.split_eq_ok_iff.mpr (isFront.tiled group)
  have faults (level : String) := isFront.faults
    (faults_parenthesize isLevel result level (Text.byteSize front) after)
  rw [List.append_assoc, List.append_assoc, read,
    Level.readPart_eq_chainResult whole (by simp)]
  exact (faults _).result_eq _

theorem read_error_of_group_of_several_faults :
    LeadsUp "a = \"(\" OR NOT ".toList ∧ IsLevel " b (NOT x) AND (c) d ".toList ∧
      read (" b (NOT x) AND (c) d ".toList) = .error (.incomplete "b (NOT x) AND (c) d") ∧
      Term.split 0 "OR ( ) AND".toList = .ok [⟨.connective .or, 0, "OR".toList⟩,
        ⟨.group, 3, "( )".toList⟩, ⟨.connective .and, 7, "AND".toList⟩] ∧
      read "a = \"(\" OR NOT ( b (NOT x) AND (c) d ) OR ( ) AND".toList =
        .error (.incomplete "b (NOT x) AND (c) d") := by
  have left : read "a = \"(\"".toList = .ok (.leaf ⟨0, 7⟩) := by decide +kernel
  have leads : LeadsUp ("a = \"(\"".toList ++ Connective.or.link ++ "NOT ".toList) :=
    .negation (.connective .or left)
  have isLevel : IsLevel " b (NOT x) AND (c) d ".toList :=
    ⟨⟨[⟨.word, 1, "b".toList⟩, ⟨.group, 3, "(NOT x)".toList⟩,
        ⟨.connective .and, 11, "AND".toList⟩, ⟨.group, 15, "(c)".toList⟩,
        ⟨.word, 19, "d".toList⟩], rfl⟩, by decide⟩
  have result :
      read " b (NOT x) AND (c) d ".toList =
      .error (.incomplete "b (NOT x) AND (c) d") := by
    decide +kernel
  have space : Text.allBlank " ".toList = true := by decide
  have splits : Term.split 0 "OR ( ) AND".toList = .ok [⟨.connective .or, 0, "OR".toList⟩,
      ⟨.group, 3, "( )".toList⟩, ⟨.connective .and, 7, "AND".toList⟩] := rfl
  exact ⟨leads, isLevel, result, splits,
    read_error_of_group leads isLevel result space splits⟩

end Expr

end Criteria
