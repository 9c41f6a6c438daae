import Criteria.Proofs.Expr.Shift
import Criteria.Proofs.Term.Keyword

/-!
Expressions put together from the texts of others.

A text in parentheses is read as it is read alone. So the tree and the faults of a
larger text that is written with parentheses follow from those of its parts, and the
parentheses around a left operand may be left out.
-/

namespace Criteria

open Level (Reads segmentResult chainResult)
open Term (Tiled)
open Nesting (parenthesize)

def Connective.link (connective : Connective) : List Char :=
  ' ' :: connective.spelling ++ [' ']

namespace Term

theorem Tiled.link {left right : List Char} {terms others : List Term}
    (connective : Connective) (leftTiled : Tiled 0 left terms)
    (rightTiled : Tiled (Text.byteSize (left ++ connective.link)) right others) :
    Tiled 0 (left ++ connective.link ++ right)
      (terms ++ ⟨.connective connective, Text.byteSize left + 1, connective.spelling⟩ ::
        others) := by
  have space : Text.allBlank [' '] = true := by decide
  have spelled : Text.upper connective.spelling = connective.spelling := by
    cases connective <;> rfl
  have size : Text.byteSize (left ++ connective.link) =
      Text.byteSize left + 1 + Text.byteSize connective.spelling + Text.byteSize
        [' '] := by
    rw [Connective.link, List.cons_append, Text.byteSize_append, Text.byteSize,
      Text.byteSize_append, ← Nat.add_assoc, ← Nat.add_assoc]
    rfl
  rw [size] at rightTiled
  have keyword :=
    rightTiled.keyword (keyword?_of_connective spelled) space
      (.inl (List.cons_ne_nil _ _))
  have regrouped : left ++ connective.link ++ right =
      left ++ ([' '] ++ (connective.spelling ++ ([' '] ++ right))) := by
    simp [Connective.link]
  rw [regrouped]
  apply leftTiled.append (isBlank_of_head_gap space (List.cons_ne_nil _ _))
  rw [Nat.zero_add]
  exact .blanks space keyword

end Term

structure Expr.IsLevel (text : List Char) : Prop where
  splits : ∃ terms, Term.split 0 text = .ok terms
  filled : Text.allBlank text = false

namespace Expr

theorem IsLevel.balanced {text : List Char} (isLevel : IsLevel text) :
    Nesting.Balanced text := by
  rcases isLevel.splits with ⟨terms, splits⟩
  exact (Term.split_eq_ok_iff.mp splits).balanced

theorem isLevel_of_read {text : List Char} {expr : Expr} (result : read text = .ok expr) :
    IsLevel text := by
  rcases read_eq_ok_iff.mp result with ⟨terms, tiled, reads⟩
  exact ⟨⟨terms, Term.split_eq_ok_iff.mpr tiled⟩, filled_of_reads tiled reads⟩

end Expr

namespace Level

theorem segmentResult_parenthesize {text : List Char} (isLevel : Expr.IsLevel text)
    (expression : List Char) (level : String) (start : Nat) :
    segmentResult expression level [⟨.group, start, parenthesize text⟩] =
      (Expr.read text).map (Expr.shift (start + 1)) := by
  rw [← Expr.readPart_eq_map_shift isLevel.balanced expression, segmentResult,
    readOperand]
  simp only [Term.inner_parenthesize, isLevel.filled, Bool.false_eq_true, if_false,
    List.isEmpty_nil, if_true]
  exact bind_pure _

end Level

namespace Expr

theorem read_eq_chainResult {text : List Char} {terms : List Term}
    (tiled : Tiled 0 text terms) (nonempty : terms ≠ []) :
    read text = chainResult text (String.ofList (Text.trim text)) terms :=
  Level.readPart_eq_chainResult (Term.split_eq_ok_iff.mpr tiled) nonempty

theorem read_parenthesize {text : List Char} (isLevel : IsLevel text) :
    read (parenthesize text) = (read text).map (shift 1) := by
  have tiled : Tiled 0 (parenthesize text ++ []) [⟨.group, 0, parenthesize text⟩] :=
    .group isLevel.balanced .nil
  rw [List.append_nil] at tiled
  rw [read_eq_chainResult tiled (List.cons_ne_nil _ _),
    Level.chainResult_of_unconnected (by simp), Level.segmentResult_parenthesize isLevel]

theorem read_negation_parenthesize {text : List Char} (isLevel : IsLevel text) :
    read ("NOT ".toList ++ parenthesize text) = (read text).map fun expr =>
      .not (expr.shift 5) := by
  have group : Tiled 4 (parenthesize text ++ []) [⟨.group, 4, parenthesize text⟩] :=
    .group isLevel.balanced .nil
  have tiled : Tiled 0 ("NOT".toList ++ (" ".toList ++ (parenthesize text ++ [])))
      [⟨.negation, 0, "NOT".toList⟩, ⟨.group, 4, parenthesize text⟩] :=
    Tiled.keyword rfl (by decide) (.inr rfl) group
  rw [List.append_nil] at tiled
  have result := read_eq_chainResult tiled (List.cons_ne_nil _ _)
  rw [Level.chainResult_of_unconnected (by simp), Level.segmentResult_negation rfl,
    Level.segmentResult_parenthesize isLevel] at result
  refine result.trans ?_
  cases read text <;> rfl

/-- The fault of the left operand comes before that of the right one. -/
theorem read_link_parenthesize {left right : List Char} (connective : Connective)
    (leftIsLevel : IsLevel left) (rightIsLevel : IsLevel right) :
    read (parenthesize left ++ connective.link ++ parenthesize right) = do
      let leftExpr ← read left
      let rightExpr ← read right
      return .connect connective (leftExpr.shift 1)
        (rightExpr.shift (Text.byteSize (parenthesize left ++ connective.link) + 1)) := by
  have leftTiled : Tiled 0 (parenthesize left ++ []) [⟨.group, 0, parenthesize left⟩] :=
    .group leftIsLevel.balanced .nil
  have rightTiled :
      Tiled 0 (parenthesize right ++ []) [⟨.group, 0, parenthesize right⟩] :=
    .group rightIsLevel.balanced .nil
  rw [List.append_nil] at leftTiled rightTiled
  have moved := rightTiled.shift (Text.byteSize (parenthesize left ++ connective.link))
  have result := read_eq_chainResult (leftTiled.link connective moved) (by simp)
  refine result.trans ?_
  rw [Level.chainResult_append rfl, Level.chainResult_of_unconnected (by simp),
    Level.segmentResult_parenthesize leftIsLevel]
  have alone : Level.segments ([⟨.group, 0, parenthesize right⟩].map
      (Term.shift (Text.byteSize (parenthesize left ++ connective.link)))) = (_, []) :=
    Level.segments_of_unconnected (by simp [Term.shift])
  rw [alone]
  simp only [Level.join]
  rw [List.map_cons, List.map_nil, Term.shift,
    Level.segmentResult_parenthesize rightIsLevel]
  cases read left <;> cases read right <;> rfl

theorem read_link {left right : List Char} {leftExpr rightExpr : Expr} {terms : List Term}
    (connective : Connective) (leftRead : read left = .ok leftExpr)
    (rightTiled : Tiled 0 right terms) (rightReads : Reads .operand terms rightExpr) :
    read (left ++ connective.link ++ right) =
      .ok (.connect connective leftExpr
        (rightExpr.shift (Text.byteSize (left ++ connective.link)))) := by
  rcases read_eq_ok_iff.mp leftRead with ⟨leftTerms, leftTiled, leftReads⟩
  have moved := rightTiled.shift (Text.byteSize (left ++ connective.link))
  exact read_eq_ok_iff.mpr ⟨_, leftTiled.link connective moved,
    .connect leftReads rfl (rightReads.shift _)⟩

end Expr

end Criteria
