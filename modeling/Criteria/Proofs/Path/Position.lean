import Criteria.Proofs.Path.Lookup

/-!
Positions on lists, behind a dot and in brackets.

An item of a list can be asked for as `items[0]` or as `items.0`. The digits between
brackets are checked while the path is read, those behind a dot when the name is used on
a list. Both ways take a row of digits whose value fits 64 bits, with zeros in front or
not. But behind a dot the row may have a plus sign in front, which the brackets refuse.
-/

namespace Criteria

namespace Path

/-! ## Brackets -/

theorem Scanner.run?_append_open (scanner : Scanner) (left right : List Char) :
    scanner.run? (left ++ '[' :: right) = (scanner.run? left).bind fun before =>
      run? ⟨before, .index []⟩ right := by
  refine run?_append (fun scanner => ?_) scanner left
  rw [run?_cons, step?, if_neg (by decide), if_pos rfl, Option.bind_map]
  rfl

theorem read?_append_index (left : List Char) {segment : List Char}
    (noBracket : ']' ∉ segment) :
    read? (left ++ '[' :: (segment ++ [']'])) = (read? left).bind fun before =>
      (position? segment).map fun position => ⟨before.steps ++ [.index position]⟩ := by
  rw [read?_eq_scan?, read?_eq_scan?, scan?, scan?, Scanner.run?_append_open,
    Option.bind_map, Option.map_bind]
  refine Option.bind_congr fun before _ => ?_
  rw [Function.comp_apply, Scanner.run?_index [] rfl noBracket, List.nil_append,
    Option.map_bind]
  cases position? segment <;> rfl

/-! ## Names -/

theorem read?_of_plain {segment : List Char}
    (plain : ∀ character ∈ segment, character ∉ ".[]".toList) :
    read? segment =
      if segment = [] then none else some ⟨[.attribute (String.ofList segment)]⟩ := by
  have noDot : '.' ∉ segment := fun member => plain _ member (by decide)
  have isName : segment = [] ∨ IsName segment := by
    by_cases empty : segment = []
    · exact .inl empty
    · exact .inr ⟨empty, plain⟩
  have single := segment?_eq List.not_mem_nil isName nofun
  rw [List.append_nil] at single
  rw [read?_of_noDot noDot, single]
  cases segment <;> rfl

/-! ## Digits -/

def IsIndex (segment : List Char) : Prop :=
  segment ≠ [] ∧ segment.all Char.isDigit = true

instance (segment : List Char) : Decidable (IsIndex segment) :=
  inferInstanceAs (Decidable (_ ∧ _))

theorem position?_eq (segment : List Char) :
    position? segment =
      if IsIndex segment ∧ Decimal.digitsValue segment < UInt64.size then
        some (UInt64.ofNat (Decimal.digitsValue segment))
      else none := by
  refine if_congr ?_ rfl rfl
  simp [IsIndex, and_assoc]

theorem unsigned?_eq (segment : List Char) :
    Decimal.readNat?.unsigned? segment =
      if IsIndex segment then some (Decimal.digitsValue segment) else none := by
  refine if_congr ?_ rfl rfl
  simp [IsIndex]

def withoutPlus : List Char → List Char
  | '+' :: digits => digits
  | digits => digits

theorem withoutPlus_of_unsigned {text : List Char}
    (unsigned : ∀ digits, text ≠ '+' :: digits) :
    withoutPlus text = text := by
  rw [withoutPlus]
  exact fun digits isSigned => unsigned digits isSigned

theorem readNat?_eq (text : List Char) :
    Decimal.readNat? text = Decimal.readNat?.unsigned? (withoutPlus text) := by
  unfold Decimal.readNat?
  split
  · rfl
  · rename_i unsigned
    rw [withoutPlus_of_unsigned unsigned]

end Path

open Criteria.Path (IsIndex withoutPlus)

namespace Value

variable {value : Value} {items : List Value} {path segment : String}

/-- The item that an index selects: the one at its position, if the position fits 64
bits and the list is long enough. What is not an index selects nothing. -/
def selected? (items : List Value) (segment : List Char) : Option Value :=
  if IsIndex segment ∧ Decimal.digitsValue segment < UInt64.size then
    items[Decimal.digitsValue segment]?
  else none

theorem selected?_of_position (items : List Value) (segment : List Char) :
    ((Path.position? segment).bind fun position => items[position.toNat]?) =
      selected? items segment := by
  rw [Path.position?_eq, selected?]
  split
  · rename_i fits
    rw [Option.bind_some, UInt64.toNat_ofNat_of_lt' fits.2]
  · rfl

theorem selected?_of_unsigned (items : List Value) (segment : List Char) :
    ((((Decimal.readNat?.unsigned? segment).filter (· < UInt64.size)).map
        UInt64.ofNat).bind
      fun position => items[position.toNat]?) = selected? items segment := by
  rw [← selected?_of_position, Path.position?_eq, Path.unsigned?_eq]
  by_cases isIndex : IsIndex segment
  · by_cases fits : Decimal.digitsValue segment < UInt64.size <;>
      simp [isIndex, fits, Option.filter]
  · simp [isIndex]

theorem not_isIndex_plus (digits : List Char) : ¬ IsIndex ('+' :: digits) :=
  fun isIndex => nomatch isIndex.2

theorem selected?_plus (items : List Value) (digits : List Char) :
    selected? items ('+' :: digits) = none :=
  if_neg fun fits => not_isIndex_plus digits fits.1

/-! ## The two forms -/

theorem follow?_singleton (value : Value) (step : Path.Step) :
    value.follow? ⟨[step]⟩ = value.step? step := by
  rw [follow?, List.foldlM_cons]
  cases value.step? step <;> simp

theorem get?_append_index (value : Value) (path : String)
    (noBracket : ']' ∉ segment.toList) :
    value.get? (path ++ "[" ++ segment ++ "]") = (value.get? path).bind fun found =>
      (Path.position? segment.toList).bind fun position =>
        found.step? (.index position) := by
  have text : (path ++ "[" ++ segment ++ "]").toList =
      path.toList ++ '[' :: (segment.toList ++ [']']) := by
    simp [String.toList_append]
  rw [get?, get?, text, Path.read?_append_index _ noBracket, Option.bind_assoc,
    Option.bind_assoc]
  refine Option.bind_congr fun before _ => ?_
  cases Path.position? segment.toList with
  | none => simp
  | some position =>
      refine (follow?_append value before.steps [.index position]).trans ?_
      exact Option.bind_congr fun found _ => follow?_singleton found (.index position)

theorem get?_bracketed (isList : value.get? path = some (.list items))
    (noBracket : ']' ∉ segment.toList) :
    value.get? (path ++ "[" ++ segment ++ "]") = selected? items segment.toList := by
  rw [get?_append_index value path noBracket, isList, Option.bind_some]
  exact selected?_of_position items segment.toList

theorem get?_name (value : Value)
    (plain : ∀ character ∈ segment.toList, character ∉ ".[]".toList) :
    value.get? segment =
      if segment.toList = [] then none else value.step? (.attribute segment) := by
  rw [get?, Path.read?_of_plain plain, String.ofList_toList]
  split
  · rfl
  · exact follow?_singleton value (.attribute segment)

theorem get?_dotted (isList : value.get? path = some (.list items))
    (plain : ∀ character ∈ segment.toList, character ∉ ".[]".toList) :
    value.get? (path ++ "." ++ segment) =
      selected? items (withoutPlus segment.toList) := by
  rw [get?_append_dot, isList, Option.bind_some, get?_name _ plain]
  split
  · rename_i empty
    rw [empty]
    rfl
  · rw [step?, positionOfName?, Path.readNat?_eq, selected?_of_unsigned]

/-- On a list the two forms select the same, the item that the segment is the index of,
unless the segment has a plus sign before an index that selects an item. Then the form
with a dot selects that item, the form with brackets nothing. -/
theorem get?_dotted_eq_bracketed_iff (isList : value.get? path = some (.list items))
    (plain : ∀ character ∈ segment.toList, character ∉ ".[]".toList) :
    let dotted := value.get? (path ++ "." ++ segment)
    let bracketed := value.get? (path ++ "[" ++ segment ++ "]")
    bracketed = selected? items segment.toList ∧
      (dotted = bracketed ↔
        ∀ digits, segment.toList = '+' :: digits → selected? items digits = none) ∧
      ∀ digits, segment.toList = '+' :: digits →
        bracketed = none ∧ dotted = selected? items digits := by
  intro dotted bracketed
  have noBracket : ']' ∉ segment.toList := fun member => plain _ member (by decide)
  have inBrackets : bracketed = selected? items segment.toList :=
    get?_bracketed isList noBracket
  have behindDot := get?_dotted isList plain
  have signed : ∀ digits, segment.toList = '+' :: digits →
      bracketed = none ∧ dotted = selected? items digits := by
    intro digits isSigned
    rw [isSigned] at inBrackets behindDot
    exact ⟨inBrackets.trans (selected?_plus items digits), behindDot⟩
  refine ⟨inBrackets, ⟨fun same digits isSigned => ?_, fun unselected => ?_⟩, signed⟩
  · rcases signed digits isSigned with ⟨nothing, selects⟩
    rw [← selects, same, nothing]
  · by_cases isSigned : ∃ digits, segment.toList = '+' :: digits
    · rcases isSigned with ⟨digits, isSigned⟩
      rcases signed digits isSigned with ⟨nothing, selects⟩
      rw [selects, nothing, unselected digits isSigned]
    · have unsigned : dotted = selected? items segment.toList := by
        refine behindDot.trans (congrArg (selected? items) ?_)
        exact Path.withoutPlus_of_unsigned fun digits isPlus => isSigned ⟨digits, isPlus⟩
      rw [unsigned, inBrackets]

theorem get?_dotted_eq_bracketed_iff_of_padded :
    let value : Value := .map [("a", .list [.string "x", .string "y"])]
    value.get? ("a" ++ "." ++ "01") = value.get? ("a" ++ "[" ++ "01" ++ "]") ∧
      value.get? ("a" ++ "[" ++ "01" ++ "]") = some (.string "y") := by
  intro value
  have isList : value.get? "a" = some (.list [.string "x", .string "y"]) := rfl
  have plain : ∀ character ∈ "01".toList, character ∉ ".[]".toList := by simp
  rcases get?_dotted_eq_bracketed_iff isList plain with ⟨selects, agree, _⟩
  refine ⟨agree.mpr fun digits isSigned => ?_, selects⟩
  cases isSigned

theorem get?_dotted_ne_bracketed_of_plus :
    let value : Value := .map [("a", .list [.string "x", .string "y"])]
    value.get? "a" = some (.list [.string "x", .string "y"]) ∧
      (∀ character ∈ "+1".toList, character ∉ ".[]".toList) ∧
      value.get? ("a" ++ "." ++ "+1") = some (.string "y") ∧
      value.get? ("a" ++ "[" ++ "+1" ++ "]") = none :=
  ⟨rfl, by simp, rfl, rfl⟩

end Value

end Criteria
