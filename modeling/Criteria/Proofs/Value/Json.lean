import Criteria.Value.Json
import Criteria.Proofs.Number.Integer
import Criteria.Proofs.Number.Order

/-!
Values and JSON documents stand for each other.

A document becomes a value and the same document again. A value can come back with an
integer of the other kind, which is the same number, and it comes back with null in
place of each float that is not finite. So the same value comes back exactly when all of
its floats are finite, however deep in lists and maps they are.
-/

namespace Criteria

/-! ## Induction -/

/-- What holds of a list or a map as soon as it holds of all members, and of what has no
members, holds of every value. -/
@[elab_as_elim, induction_eliminator]
theorem Value.memberInduction {motive : Value → Prop} (null : motive .null)
    (bool : ∀ value, motive (.bool value)) (number : ∀ value, motive (.number value))
    (string : ∀ value, motive (.string value))
    (list : ∀ items, (∀ item ∈ items, motive item) → motive (.list items))
    (map : ∀ entries, (∀ entry ∈ entries, motive entry.2) → motive (.map entries))
    (value : Value) : motive value :=
  @Value.rec motive (fun items => ∀ item ∈ items, motive item)
    (fun entries => ∀ entry ∈ entries, motive entry.2) (fun entry => motive entry.2)
    null bool number string list map
    (List.forall_mem_nil _)
    (fun _ _ first others => List.forall_mem_cons.mpr ⟨first, others⟩)
    (List.forall_mem_nil _)
    (fun _ _ first others => List.forall_mem_cons.mpr ⟨first, others⟩)
    (fun _ _ member => member) value

@[elab_as_elim, induction_eliminator]
theorem Json.memberInduction {motive : Json → Prop} (null : motive .null)
    (bool : ∀ value, motive (.bool value)) (number : ∀ value, motive (.number value))
    (string : ∀ value, motive (.string value))
    (array : ∀ items, (∀ item ∈ items, motive item) → motive (.array items))
    (object : ∀ members, (∀ member ∈ members, motive member.2) → motive (.object members))
    (json : Json) : motive json :=
  @Json.rec motive (fun items => ∀ item ∈ items, motive item)
    (fun members => ∀ member ∈ members, motive member.2) (fun member => motive member.2)
    null bool number string array object
    (List.forall_mem_nil _)
    (fun _ _ first others => List.forall_mem_cons.mpr ⟨first, others⟩)
    (List.forall_mem_nil _)
    (fun _ _ first others => List.forall_mem_cons.mpr ⟨first, others⟩)
    (fun _ _ member => member) json

/-! ## Numbers -/

namespace Number

variable {left right : Number} {value : Int}

theorem same_of_integer? (isInteger : left.integer? = some value)
    (isInteger' : right.integer? = some value) : left.same right = true := by
  rw [same, order?_of_integer? isInteger isInteger', Int.compare_eq_eq.mpr rfl]
  rfl

theorem same_self_of_isFinite {float : Binary64} (isFinite : float.isFinite = true) :
    (Number.float float).same (.float float) = true := by
  have isNumber : (Number.float float).toFloat ≠ .notANumber := by
    rintro rfl
    cases isFinite
  rcases exists_place? isNumber with ⟨place, found⟩
  exact (same_iff found found).mpr (Place.order_self place)

theorem numeral?_of_integer? (isInteger : left.integer? = some value)
    (holds : Holds value) :
    left.numeral? = some (.integer value holds) := by
  cases left <;> cases isInteger <;> rfl

theorem numeral?_toNumber (numeral : Json.Numeral) :
    numeral.toNumber.numeral? = some numeral := by
  cases numeral with
  | integer value holds => exact numeral?_of_integer? (integer?_ofInt holds) holds
  | float negative magnitude => rfl

end Number

namespace Value

/-! ## Members -/

theorem itemsOfJson_eq_map (items : List Json) :
    itemsOfJson items = items.map ofJson := by
  induction items with
  | nil => rfl
  | cons item rest induction => rw [itemsOfJson, induction, List.map_cons]

theorem itemsToJson_eq_map (items : List Value) :
    itemsToJson items = items.map toJson := by
  induction items with
  | nil => rfl
  | cons item rest induction => rw [itemsToJson, induction, List.map_cons]

theorem entriesOfJson_eq_map (members : List (String × Json)) :
    entriesOfJson members = members.map (Prod.map id ofJson) := by
  induction members with
  | nil => rfl
  | cons member rest induction =>
      rw [entriesOfJson, induction, List.map_cons, Prod.map, id]

theorem entriesToJson_eq_map (entries : List (String × Value)) :
    entriesToJson entries = entries.map (Prod.map id toJson) := by
  induction entries with
  | nil => rfl
  | cons entry rest induction =>
      rw [entriesToJson, induction, List.map_cons, Prod.map, id]

theorem sameItems_map_iff (change : Value → Value) (items : List Value) :
    sameItems (items.map change) items = true ↔
      ∀ item ∈ items, (change item).same item = true := by
  induction items with
  | nil => simp [sameItems]
  | cons item rest induction =>
      rw [List.map_cons, sameItems, Bool.and_eq_true, induction, List.forall_mem_cons]

theorem sameEntries_map_iff (change : Value → Value) (entries : List (String × Value)) :
    sameEntries (entries.map (Prod.map id change)) entries = true ↔
      ∀ entry ∈ entries, (change entry.2).same entry.2 = true := by
  induction entries with
  | nil => simp [sameEntries]
  | cons entry rest induction =>
      rw [List.map_cons, Prod.map, sameEntries, Bool.and_eq_true, Bool.and_eq_true,
        induction, List.forall_mem_cons]
      simp

/-! ## Floats in a value -/

inductive Contains (number : Number) : Value → Prop
  | here : Contains number (.number number)
  | item {items : List Value} {item : Value} (member : item ∈ items)
      (within : Contains number item) : Contains number (.list items)
  | entry {entries : List (String × Value)} {entry : String × Value}
      (member : entry ∈ entries)
      (within : Contains number entry.2) : Contains number (.map entries)

def AllFinite (value : Value) : Prop :=
  ∀ float, Contains (.float float) value → float.isFinite = true

theorem allFinite_number_iff {number : Number} :
    (Value.number number).AllFinite ↔
      ∀ float, number = .float float → float.isFinite = true := by
  constructor
  · rintro finite float rfl
    exact finite float .here
  · rintro finite float ⟨⟩
    exact finite float rfl

theorem allFinite_list_iff {items : List Value} :
    (Value.list items).AllFinite ↔ ∀ item ∈ items, item.AllFinite := by
  constructor
  · intro finite item member float within
    exact finite float (.item member within)
  · rintro finite float (_ | ⟨member, within⟩)
    exact finite _ member float within

theorem allFinite_map_iff {entries : List (String × Value)} :
    (Value.map entries).AllFinite ↔ ∀ entry ∈ entries, entry.2.AllFinite := by
  constructor
  · intro finite entry member float within
    exact finite float (.entry member within)
  · rintro finite float (_ | _ | ⟨member, within⟩)
    exact finite _ member float within

/-! ## Back and forth -/

theorem ofJson_toJson_number (number : Number) :
    ofJson (toJson (.number number)) =
      match number.numeral? with
      | some numeral => .number numeral.toNumber
      | none => .null := by
  rw [toJson]
  cases number.numeral? <;> rfl

theorem same_number_iff (number : Number) :
    (ofJson (toJson (.number number))).same (.number number) = true ↔
      (Value.number number).AllFinite := by
  have ofInteger {value : Int} (isInteger : number.integer? = some value)
      (holds : Number.Holds value) :
      (ofJson (toJson (.number number))).same (.number number) = true := by
    rw [ofJson_toJson_number, Number.numeral?_of_integer? isInteger holds]
    exact Number.same_of_integer? (Number.integer?_ofInt holds) isInteger
  rw [allFinite_number_iff]
  match number with
  | .signed value => exact iff_of_true (ofInteger rfl (Number.holds_signed value)) nofun
  | .unsigned value =>
      exact iff_of_true (ofInteger rfl (Number.holds_unsigned value)) nofun
  | .float (.finite negative magnitude) =>
      refine iff_of_true (Number.same_self_of_isFinite rfl) ?_
      rintro float ⟨⟩
      rfl
  | .float .notANumber => exact iff_of_false nofun fun finite => nomatch finite _ rfl
  | .float (.infinite negative) =>
      exact iff_of_false nofun fun finite => nomatch finite _ rfl

theorem same_ofJson_toJson_iff (value : Value) :
    (ofJson value.toJson).same value = true ↔ value.AllFinite := by
  induction value with
  | null => exact iff_of_true rfl nofun
  | bool value => exact iff_of_true (beq_self_eq_true value) nofun
  | string value => exact iff_of_true (beq_self_eq_true value) nofun
  | number number => exact same_number_iff number
  | list items induction =>
      rw [toJson, ofJson, same, itemsToJson_eq_map, itemsOfJson_eq_map, List.map_map,
        sameItems_map_iff, allFinite_list_iff]
      exact forall₂_congr induction
  | map entries induction =>
      rw [toJson, ofJson, same, entriesToJson_eq_map, entriesOfJson_eq_map, List.map_map,
        Prod.map_comp_map, Function.id_comp, sameEntries_map_iff, allFinite_map_iff]
      exact forall₂_congr induction

theorem toJson_ofJson (json : Json) : (ofJson json).toJson = json := by
  induction json with
  | null | bool | string => rfl
  | number numeral => rw [ofJson, toJson, Number.numeral?_toNumber]
  | array items induction =>
      rw [ofJson, toJson, itemsOfJson_eq_map, itemsToJson_eq_map, List.map_map]
      exact congrArg Json.array
        ((List.map_congr_left induction).trans (List.map_id items))
  | object members induction =>
      rw [ofJson, toJson, entriesOfJson_eq_map, entriesToJson_eq_map, List.map_map,
        Prod.map_comp_map]
      refine congrArg Json.object
        (Eq.trans (List.map_congr_left ?_) (List.map_id members))
      exact fun member isMember => Prod.ext rfl (induction member isMember)

/-- Documents come back from values as they were, and values from documents as the same
ones if all of their floats are finite. -/
theorem json_lossless (value : Value) (json : Json) :
    ((ofJson value.toJson).same value = true ↔ value.AllFinite) ∧
    (ofJson json).toJson = json :=
  ⟨same_ofJson_toJson_iff value, toJson_ofJson json⟩

end Value

end Criteria
