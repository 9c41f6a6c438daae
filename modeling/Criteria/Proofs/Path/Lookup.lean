import Criteria.Proofs.Path.Scanner

/-!
Looking up along a path, part by part.

A dot divides a path into two paths, whatever else the text holds: the path of the whole
text has the steps of both, and the whole is no path if one of the parts is none.
Following the steps of both is following the second part from where the first one leads.
-/

namespace Criteria

namespace Path

theorem read?_append_dot_eq_some_iff {left right : List Char} {path : Path} :
    read? (left ++ '.' :: right) = some path ↔ ∃ before after, read? left = some before ∧
      read? right = some after ∧ path = ⟨before.steps ++ after.steps⟩ := by
  rw [read?_append_dot, Option.bind_eq_some_iff]
  constructor
  · rintro ⟨before, isBefore, joined⟩
    rcases Option.map_eq_some_iff.mp joined with ⟨after, isAfter, rfl⟩
    exact ⟨before, after, isBefore, isAfter, rfl⟩
  · rintro ⟨before, after, isBefore, isAfter, rfl⟩
    exact ⟨before, isBefore, Option.map_eq_some_iff.mpr ⟨after, isAfter, rfl⟩⟩

end Path

namespace Value

theorem follow?_append (value : Value) (before after : List Path.Step) :
    value.follow? ⟨before ++ after⟩ =
      (value.follow? ⟨before⟩).bind fun found => found.follow? ⟨after⟩ := by
  rw [follow?, List.foldlM_append]
  rfl

theorem toList_append_dot (left right : String) :
    (left ++ "." ++ right).toList = left.toList ++ '.' :: right.toList := by
  rw [String.toList_append, String.toList_append, List.append_assoc]
  rfl

theorem get?_append_dot (value : Value) (left right : String) :
    value.get? (left ++ "." ++ right) = (value.get? left).bind fun found =>
      found.get? right := by
  rw [get?, get?, toList_append_dot, Path.read?_append_dot]
  cases Path.read? left.toList with
  | none => rfl
  | some before =>
      cases isPath : Path.read? right.toList with
      | none =>
          -- Nothing is found at a text that is no path, wherever the first part leads.
          have nothing (found : Value) : found.get? right = none := by
            rw [get?, isPath]
            rfl
          simp only [nothing, Option.bind_some, Option.map_none, Option.bind_none,
            Option.bind_fun_none]
      | some after =>
          have further (found : Value) : found.get? right = found.follow? after := by
            rw [get?, isPath]
            rfl
          simp only [further, Option.bind_some, Option.map_some]
          exact follow?_append value before.steps after.steps

/-- The value at two texts with a dot between them is the value at the second text from
the one at the first, if there is one. It does not matter whether the texts are paths:
the whole is one exactly when both are, with the steps of both. -/
theorem lookup_composed (value : Value) (left right : String) :
    (value.get? (left ++ "." ++ right) =
      match value.get? left with
      | some found => found.get? right
      | none => none) ∧
    ∀ path, Path.read? (left ++ "." ++ right).toList = some path ↔
      ∃ before after, Path.read? left.toList = some before ∧
        Path.read? right.toList = some after ∧ path = ⟨before.steps ++ after.steps⟩ := by
  constructor
  · rw [get?_append_dot]
    cases value.get? left <;> rfl
  · intro path
    rw [toList_append_dot]
    exact Path.read?_append_dot_eq_some_iff

end Value

end Criteria
