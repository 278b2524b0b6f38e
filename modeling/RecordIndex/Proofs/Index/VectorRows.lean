import RecordIndex.Proofs.Table.Lookup
import RecordIndex.Store

namespace RecordIndex

/-!
# Rows of vectors

A vector is kept with its places as they are read back, where what is not a
number is an empty place, and a vector of empty places is not to be kept.  The
store looks at the places before they are made into stored ones.  So it keeps
a row without any number for a vector that is hollow, whose places hold
nothing but what is not a number.
-/

namespace FeatureVector

/-- The row that a vector is to have, if one of its places holds a number. -/
def row? (vector : FeatureVector) : Option FeatureVector :=
  if (vector.map Store.storedPlace).any Option.isSome then some (vector.map Store.storedPlace)
  else none

/-- The row that the store keeps for a vector. -/
def keptRow? (vector : FeatureVector) : Option FeatureVector :=
  if vector.any Option.isSome then some (vector.map Store.storedPlace) else none

/-- Some places are filled, and what they hold is not a number in any of them. -/
def IsHollow (vector : FeatureVector) : Prop :=
  (∃ x, some x ∈ vector) ∧ forall x, some x ∈ vector -> x.isNaN = true

theorem any_isSome_iff (vector : FeatureVector) :
    vector.any Option.isSome = true ↔ ∃ x, some x ∈ vector := by
  rw [List.any_eq_true]
  constructor
  · rintro ⟨place, isPlace, filled⟩
    rcases Option.isSome_iff_exists.mp filled with ⟨x, rfl⟩
    exact ⟨x, isPlace⟩
  · rintro ⟨x, isPlace⟩
    exact ⟨some x, isPlace, rfl⟩

/-- The stored places that are filled hold the numbers among what the places
held. -/
theorem any_stored_iff (vector : FeatureVector) :
    (vector.map Store.storedPlace).any Option.isSome = true ↔
      ∃ x, some x ∈ vector ∧ x.isNaN = false := by
  rw [any_isSome_iff]
  constructor
  · rintro ⟨x, isStored⟩
    rcases List.mem_map.mp isStored with ⟨place, isPlace, stored⟩
    rcases Option.filter_eq_some_iff.mp stored with ⟨rfl, isNumber⟩
    exact ⟨x, isPlace, (Bool.not_eq_true' _).mp isNumber⟩
  · rintro ⟨x, isPlace, isNumber⟩
    refine ⟨x, List.mem_map.mpr ⟨some x, isPlace, ?_⟩⟩
    exact Option.filter_eq_some_iff.mpr ⟨rfl, (Bool.not_eq_true' _).mpr isNumber⟩

/-- The store keeps the row that a vector is to have unless the vector is
hollow. -/
theorem keptRow?_eq_row?_iff (vector : FeatureVector) :
    keptRow? vector = row? vector ↔ ¬ IsHollow vector := by
  have filled := any_isSome_iff vector
  have numbers := any_stored_iff vector
  unfold keptRow? row? IsHollow
  split
  · rename_i isFilled
    split
    · rename_i isNumber
      rcases numbers.mp isNumber with ⟨x, isPlace, isNumber⟩
      refine ⟨fun _ hollow => ?_, fun _ => rfl⟩
      rw [hollow.2 x isPlace] at isNumber
      cases isNumber
    · rename_i noNumber
      refine ⟨nofun, fun notHollow => absurd ⟨filled.mp isFilled, fun x isPlace => ?_⟩ notHollow⟩
      exact (Bool.not_eq_false _).mp fun isNumber =>
        noNumber (numbers.mpr ⟨x, isPlace, isNumber⟩)
  · rename_i notFilled
    have noNumber : ¬ (vector.map Store.storedPlace).any Option.isSome = true := fun isNumber =>
      notFilled (filled.mpr ((numbers.mp isNumber).imp fun _ held => held.1))
    rw [if_neg noNumber]
    exact ⟨fun _ hollow => notFilled (filled.mpr hollow.1), fun _ => rfl⟩

end FeatureVector

namespace Store

/-- To keep the vector of a record changes the row of that record. -/
theorem get?_vectors_putVector (store : Store) (key : String) (vector : FeatureVector)
    (other : String) :
    (store.putVector key vector).vectors.get? other =
      if other = key then FeatureVector.keptRow? vector else store.vectors.get? other := by
  unfold putVector FeatureVector.keptRow?
  split
  · split
    · rename_i same
      exact same ▸ Table.get?_insert_self store.vectors key _
    · rename_i different
      exact Table.get?_insert_of_ne different store.vectors _
  · split
    · rename_i same
      exact same ▸ Table.get?_erase_self store.vectors key
    · rename_i different
      exact Table.get?_erase_of_ne different store.vectors

/-- To keep the vectors of some records changes their rows. -/
theorem get?_vectors_putVectors (vectorOf : StoredRecord -> FeatureVector)
    {rows : List (String × StoredRecord)} (nodup : (rows.map Prod.fst).Nodup) (store : Store)
    (key : String) :
    (rows.foldl (fun store row => store.putVector row.1 (vectorOf row.2)) store).vectors.get? key =
      match Rows.get? key rows with
      | some record => FeatureVector.keptRow? (vectorOf record)
      | none => store.vectors.get? key := by
  induction rows generalizing store with
  | nil => rfl
  | cons row rest ih =>
      rcases row with ⟨first, record⟩
      rcases List.nodup_cons.mp nodup with ⟨isNew, nodup⟩
      rw [List.foldl_cons, ih nodup, get?_vectors_putVector]
      by_cases same : key = first
      · subst same
        have notLater : Rows.get? key rest = none := Option.eq_none_iff_forall_ne_some.mpr
          fun other found => isNew (List.mem_map.mpr ⟨_, Rows.mem_of_get? found, rfl⟩)
        rw [notLater, Rows.get?_cons_self, if_pos rfl]
      · rw [Rows.get?_cons_of_ne same, if_neg same]

end Store

end RecordIndex
