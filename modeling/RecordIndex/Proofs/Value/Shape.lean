import RecordIndex.Proofs.Table.Lookup
import RecordIndex.Proofs.Text.Integer
import RecordIndex.Proofs.Value.Leaves
import RecordIndex.Proofs.Value.Walks
import RecordIndex.Value.Merge

namespace RecordIndex

/-!
# The shape of values

A value is well-formed when each name leads to one field and each item of an
array has a position.  Setting a field, merging a patch and reading back what
was stored all keep values well-formed.
-/

namespace Value

/-! ## Parts -/

theorem wellFormedItems_iff {items : List Value} :
    WellFormedItems items ↔ ∀ item ∈ items, item.WellFormed := by
  induction items with
  | nil => exact ⟨fun _ => List.forall_mem_nil _, fun _ => trivial⟩
  | cons first rest ih => rw [WellFormedItems, ih, List.forall_mem_cons]

theorem wellFormedFields_iff {fields : List (String × Value)} :
    WellFormedFields fields ↔ ∀ field ∈ fields, field.2.WellFormed := by
  induction fields with
  | nil => exact ⟨fun _ => List.forall_mem_nil _, fun _ => trivial⟩
  | cons first rest ih => rw [WellFormedFields, ih, List.forall_mem_cons]

/-- An object is well-formed when its fields are in order and well-formed. -/
theorem wellFormed_object_iff {fields : List (String × Value)} :
    (Value.object fields).WellFormed ↔
      Rows.Ascending fields ∧ ∀ field ∈ fields, field.2.WellFormed := by
  rw [← wellFormedFields_iff]
  rfl

theorem wellFormed_array_iff {items : List Value} :
    (Value.array items).WellFormed ↔
      items.length ≤ 0x10000000000000000 ∧ ∀ item ∈ items, item.WellFormed := by
  rw [← wellFormedItems_iff]
  rfl

theorem wellFormed_of_scalar {value : Value} (scalar : value.isContainer = false) :
    value.WellFormed := by
  cases value with
  | array items => cases scalar
  | object fields => cases scalar
  | _ => trivial

/-- Each field is found by its name. -/
theorem get?_field {fields : List (String × Value)} (wellFormed : (Value.object fields).WellFormed)
    {field : String × Value} (isField : field ∈ fields) :
    (Value.object fields).get? field.1 = some field.2 :=
  (Rows.get?_eq_some_iff wellFormed.1).mpr isField

/-- Each item is found by its position. -/
theorem get?_item {items : List Value} (wellFormed : (Value.array items).WellFormed)
    {place : Nat} {item : Value} (isItem : items[place]? = some item) :
    (Value.array items).get? (Nat.repr place) = some item := by
  have counted : place < 0x10000000000000000 :=
    Nat.lt_of_lt_of_le (List.getElem?_eq_some_iff.mp isItem).1 wellFormed.1
  rw [Value.get?, IntegerText.natural?_repr counted]
  exact isItem

/-- Each child is found by the name that it is listed under. -/
theorem get?_child {value child : Value} (wellFormed : value.WellFormed) {name : String}
    (isChild : (name, child) ∈ value.children) : value.get? name = some child := by
  cases value with
  | object fields => exact get?_field wellFormed isChild
  | array items =>
      rcases mem_numbered_iff.mp isChild with ⟨place, isItem, rfl⟩
      rw [Nat.zero_add]
      exact get?_item wellFormed isItem
  | _ => cases isChild

/-- What a child leads to is reached through its name. -/
theorem getPath?_cons {value child : Value} {name : String} (isChild : value.get? name = some child)
    (path : List String) : value.getPath? (name :: path) = child.getPath? path := by
  rw [getPath?, isChild]
  rfl

theorem WellFormed.child {value child : Value} (wellFormed : value.WellFormed) {name : String}
    (isChild : value.get? name = some child) : child.WellFormed := by
  cases value with
  | object fields =>
      exact (wellFormed_object_iff.mp wellFormed).2 (name, child) (Rows.mem_of_get? isChild)
  | array items =>
      rcases Option.bind_eq_some_iff.mp isChild with ⟨place, _, isItem⟩
      exact (wellFormed_array_iff.mp wellFormed).2 child (List.mem_of_getElem? isItem)
  | _ => cases isChild

/-- A walk comes to what its names lead to. -/
theorem Leads.getPath? {value reached : Value} {names : List String}
    (leads : value.Leads names reached) (wellFormed : value.WellFormed) :
    value.getPath? names = some reached := by
  induction leads with
  | here value => rfl
  | child isChild leads ih =>
      have isChild := get?_child wellFormed isChild
      rw [getPath?_cons isChild]
      exact ih (wellFormed.child isChild)

/-! ## Changes -/

theorem wellFormed_insert {fields : List (String × Value)}
    (wellFormed : (Value.object fields).WellFormed) (name : String) {field : Value}
    (fieldToo : field.WellFormed) :
    (Value.object (Rows.insert name field fields)).WellFormed := by
  rcases wellFormed_object_iff.mp wellFormed with ⟨ascending, areWellFormed⟩
  refine wellFormed_object_iff.mpr ⟨ascending.insert name field, fun other member => ?_⟩
  rcases Rows.mem_of_mem_insert member with rfl | older
  · exact fieldToo
  · exact areWellFormed other older

theorem wellFormed_erase {fields : List (String × Value)}
    (wellFormed : (Value.object fields).WellFormed) (name : String) :
    (Value.object (Rows.erase name fields)).WellFormed := by
  rcases wellFormed_object_iff.mp wellFormed with ⟨ascending, areWellFormed⟩
  exact wellFormed_object_iff.mpr ⟨ascending.erase name,
    fun field member => areWellFormed field (List.mem_filter.mp member).1⟩

theorem WellFormed.setField {value : Value} (wellFormed : value.WellFormed) (name : String)
    {field : Value} (fieldToo : field.WellFormed) : (value.setField name field).WellFormed := by
  unfold Value.setField
  split
  · exact wellFormed_insert wellFormed name fieldToo
  · exact wellFormed

mutual

/-- A patch makes a well-formed value of another one. -/
theorem WellFormed.mergeOnto : forall {changes value : Value}, changes.WellFormed ->
    value.WellFormed -> (changes.mergeOnto value).WellFormed
  | .object changes, value, wellFormed, wellFormed' => by
      cases value with
      | object fields => exact wellFormed_mergeFields changes wellFormed.2 wellFormed'
      | _ => exact wellFormed
  | .undefined, _, wellFormed, _ | .null, _, wellFormed, _ | .bool _, _, wellFormed, _
  | .number _, _, wellFormed, _ | .string _, _, wellFormed, _ | .date _, _, wellFormed, _
  | .regExp _ _, _, wellFormed, _ | .symbol _, _, wellFormed, _ | .array _, _, wellFormed, _ =>
      wellFormed

theorem wellFormed_mergeFields : forall (changes : List (String × Value))
    {fields : List (String × Value)}, WellFormedFields changes ->
    (Value.object fields).WellFormed -> (Value.object (mergeFields changes fields)).WellFormed
  | [], _, _, wellFormed => wellFormed
  | (name, change) :: rest, _, areWellFormed, wellFormed => by
      rw [mergeFields]
      apply wellFormed_mergeFields rest areWellFormed.2
      split
      · exact wellFormed_erase wellFormed name
      · split
        · rename_i old isOld
          have oldToo : old.WellFormed :=
            (wellFormed_object_iff.mp wellFormed).2 (name, old) (Rows.mem_of_get? isOld)
          exact wellFormed_insert wellFormed name (areWellFormed.1.mergeOnto oldToo)
        · exact wellFormed_insert wellFormed name areWellFormed.1

end

/-! ## Storing -/

theorem length_decodeItems (keepUndefined : Bool) (items : List Value) :
    (decodeItems (encodeItems keepUndefined items)).length = items.length := by
  induction items with
  | nil => rfl
  | cons item rest ih => exact congrArg Nat.succ ih

/-- Fields that are stored keep their names and their order. -/
theorem decodeFields_sublist (keepUndefined : Bool) (fields : List (String × Value)) :
    ((decodeFields (encodeFields keepUndefined fields)).map Prod.fst).Sublist
      (fields.map Prod.fst) := by
  induction fields with
  | nil => exact .refl _
  | cons first rest ih =>
      rcases first with ⟨name, value⟩
      unfold encodeFields
      split
      · exact .cons name ih
      · exact .cons_cons name ih

theorem ascending_iff {fields : List (String × Value)} : Rows.Ascending fields ↔
    (fields.map Prod.fst).Pairwise fun first second => compare first second = .lt :=
  (List.pairwise_map (R := fun first second => compare first second = .lt)).symm

mutual

/-- What has been read of a well-formed value is well-formed. -/
theorem WellFormed.decode_encode (keepUndefined : Bool) :
    forall {value : Value}, value.WellFormed -> (decode (value.encode keepUndefined)).WellFormed
  | .array items, wellFormed =>
      wellFormed_array_iff.mpr ⟨(length_decodeItems keepUndefined items) ▸ wellFormed.1,
        wellFormed_decodeItems keepUndefined items wellFormed.2⟩
  | .object fields, wellFormed =>
      wellFormed_object_iff.mpr ⟨ascending_iff.mpr
        ((ascending_iff.mp wellFormed.1).sublist (decodeFields_sublist keepUndefined fields)),
        wellFormed_decodeFields keepUndefined fields wellFormed.2⟩
  | .undefined, _ | .null, _ | .bool _, _ | .number _, _ | .string _, _ | .date _, _
  | .regExp _ _, _ | .symbol _, _ =>
      wellFormed_of_scalar (isContainer_decode_encode keepUndefined _)

theorem wellFormed_decodeItems (keepUndefined : Bool) : forall items : List Value,
    WellFormedItems items ->
      ∀ item ∈ decodeItems (encodeItems keepUndefined items), item.WellFormed
  | [], _ => List.forall_mem_nil _
  | item :: rest, ⟨here, later⟩ => by
      rw [encodeItems, decodeItems, List.forall_mem_cons]
      refine ⟨?_, wellFormed_decodeItems keepUndefined rest later⟩
      split
      · trivial
      · exact here.decode_encode keepUndefined

theorem wellFormed_decodeFields (keepUndefined : Bool) : forall fields : List (String × Value),
    WellFormedFields fields ->
      ∀ field ∈ decodeFields (encodeFields keepUndefined fields), field.2.WellFormed
  | [], _ => List.forall_mem_nil _
  | (name, value) :: rest, ⟨here, later⟩ => by
      have laterToo := wellFormed_decodeFields keepUndefined rest later
      rw [encodeFields]
      split
      · exact laterToo
      · rw [decodeFields, List.forall_mem_cons]
        exact ⟨here.decode_encode keepUndefined, laterToo⟩

end

end Value

end RecordIndex
