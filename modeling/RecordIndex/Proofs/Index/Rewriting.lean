import Mathlib.Data.Finset.Card
import RecordIndex.Proofs.Index.Delta
import RecordIndex.Proofs.Index.Rows

namespace RecordIndex

/-!
# A difference rewrites a record

Carrying a difference of terms over to an index skips the terms that stay as
they are.  What comes of it is the same as taking every row of the record away
and writing its rows anew, as long as the rows that are there are those of the
old counts.  Nothing else is touched, since a key tells its record; and the
difference the other way round brings back what was there before.

None of this asks what the leaves of the terms are.  A leaf that is a name
cannot be read back from every key, but the keys of such terms are still told
apart by their parts.
-/

/-- The rows of the record in the index are those of the counts. -/
def HasRows (order : IndexOrder) (index : Table Key Nat) (id : String) (counts : TermCounts) :
    Prop :=
  forall row, row ∈ index.rows ∧ Term.IsKeyOf order id row.1 ↔ row ∈ counts.indexRows order id

variable {counts old new : TermCounts} {order : IndexOrder} {index : Table Key Nat} {id : String}

/-- To have the rows of counts is to hold each term with its count. -/
theorem hasRows_iff (filed : counts.Filed) : HasRows order index id counts ↔
    forall term : Term, index.get? (term.key order id) = counts.count? term.encode := by
  constructor
  · intro rows term
    apply Option.ext
    intro count
    rw [Table.get?_eq_some_iff, ← TermCounts.mem_indexRows_iff filed, ← rows]
    exact (and_iff_left ⟨term, rfl⟩).symm
  · intro held row
    obtain ⟨key, count⟩ := row
    constructor
    · rintro ⟨isRow, term, rfl⟩
      rw [TermCounts.mem_indexRows_iff filed, ← held, Table.get?_eq_some_iff]
      exact isRow
    · intro member
      obtain ⟨term, rfl⟩ := TermCounts.isKeyOf_of_mem_indexRows member
      rw [TermCounts.mem_indexRows_iff filed, ← held, Table.get?_eq_some_iff] at member
      exact ⟨member, term, rfl⟩

/-! ## Rewriting -/

namespace TermCounts

/-- The index after every row of the old counts is taken away and every row of
the new ones is written. -/
def rewrite (old new : TermCounts) (order : IndexOrder) (id : String) (index : Table Key Nat) :
    Table Key Nat :=
  (index.eraseAll ((old.indexRows order id).map Prod.fst)).insertAll (new.indexRows order id)

/-- Behind a rewriting every term of the record has its new count. -/
theorem get?_rewrite (oldFiled : old.Filed) (newFiled : new.Filed)
    (held : HasRows order index id old) (term : Term) :
    (rewrite old new order id index).get? (term.key order id) = new.count? term.encode := by
  unfold rewrite
  cases counted : new.count? term.encode with
  | some count =>
      have written : (term.key order id, count) ∈ new.indexRows order id :=
        (mem_indexRows_iff newFiled).mpr counted
      apply Table.get?_insertAll_of_mem written
      exact fun row isRow sameKey => agree_indexRows newFiled order id row isRow _ written sameKey
  | none =>
      have unwritten : ∀ row ∈ new.indexRows order id, row.1 ≠ term.key order id := by
        rintro ⟨key, count⟩ isRow rfl
        rw [mem_indexRows_iff newFiled, counted] at isRow
        cases isRow
      rw [Table.get?_insertAll_of_notMem unwritten]
      by_cases isOld : term.key order id ∈ (old.indexRows order id).map Prod.fst
      · exact Table.get?_eraseAll_of_mem isOld index
      · rw [Table.get?_eraseAll_of_notMem isOld, (hasRows_iff oldFiled).mp held]
        rw [mem_keys_indexRows_iff oldFiled] at isOld
        exact Option.not_isSome_iff_eq_none.mp isOld

theorem get?_rewrite_of_other {key : Key} (other : ¬ Term.IsKeyOf order id key) :
    (rewrite old new order id index).get? key = index.get? key := by
  unfold rewrite
  rw [Table.get?_insertAll_of_notMem, Table.get?_eraseAll_of_notMem]
  · intro member
    obtain ⟨row, isRow, rfl⟩ := List.mem_map.mp member
    exact other (isKeyOf_of_mem_indexRows isRow)
  · rintro row isRow rfl
    exact other (isKeyOf_of_mem_indexRows isRow)

end TermCounts

namespace TermDelta

theorem get?_apply_of_not_isKeyOf {key : Key} (other : ¬ Term.IsKeyOf order id key) :
    ((between old new).apply order id index).get? key = index.get? key :=
  get?_apply_of_other (fun entry _ isKey => other ⟨entry.term, isKey⟩) index

/-- The record has the rows of the new counts behind the change. -/
theorem hasRows_apply (oldFiled : old.Filed) (newFiled : new.Filed)
    (held : HasRows order index id old) :
    HasRows order ((between old new).apply order id index) id new := by
  rw [hasRows_iff oldFiled] at held
  rw [hasRows_iff newFiled]
  exact fun term => get?_apply oldFiled newFiled (held term)

/-- Carrying a difference over is rewriting the record. -/
theorem apply_eq_rewrite (oldFiled : old.Filed) (newFiled : new.Filed)
    (held : HasRows order index id old) :
    (between old new).apply order id index = TermCounts.rewrite old new order id index := by
  apply Table.eq_of_get?_eq
  intro key
  by_cases own : Term.IsKeyOf order id key
  · obtain ⟨term, rfl⟩ := own
    rw [TermCounts.get?_rewrite oldFiled newFiled held,
      (hasRows_iff newFiled).mp (hasRows_apply oldFiled newFiled held)]
  · rw [get?_apply_of_not_isKeyOf own, TermCounts.get?_rewrite_of_other own]

/-- The difference the other way round undoes a difference. -/
theorem apply_apply (oldFiled : old.Filed) (newFiled : new.Filed)
    (held : HasRows order index id old) :
    (between new old).apply order id ((between old new).apply order id index) = index := by
  apply Table.eq_of_get?_eq
  intro key
  by_cases own : Term.IsKeyOf order id key
  · obtain ⟨term, rfl⟩ := own
    have there := hasRows_apply oldFiled newFiled held
    have back := hasRows_apply newFiled oldFiled there
    rw [(hasRows_iff oldFiled).mp back, (hasRows_iff oldFiled).mp held]
  · rw [get?_apply_of_not_isKeyOf own, get?_apply_of_not_isKeyOf own]

end TermDelta

/-! ## Sizes -/

namespace Table

variable {Data : Type} (table : Table Key Data)

theorem mem_keys_iff {key : Key} : key ∈ table.keys ↔ table.contains key = true := by
  unfold keys contains
  rw [List.mem_map, Option.isSome_iff_exists]
  constructor
  · rintro ⟨⟨_, data⟩, isRow, rfl⟩
    exact ⟨data, table.get?_eq_some_iff.mpr isRow⟩
  · rintro ⟨data, found⟩
    exact ⟨(key, data), table.get?_eq_some_iff.mp found, rfl⟩

/-- The rows whose keys pass a test are as many as these keys. -/
theorem length_filter_rows (test : Key -> Bool) :
    (table.rows.filter fun row => test row.1).length =
      (table.keys.toFinset.filter fun key => test key = true).card := by
  have nodup : (table.keys.filter test).Nodup := table.ascending.nodup_keys.filter test
  rw [← List.toFinset_filter, List.toFinset_card_of_nodup nodup, keys, List.filter_map,
    List.length_map]
  rfl

/-- The rows of one table whose keys the other does not have. -/
theorem length_filter_not_contains {Data' : Type} (other : Table Key Data') :
    (table.rows.filter fun row => !other.contains row.1).length =
      (table.keys.toFinset \ other.keys.toFinset).card := by
  rw [table.length_filter_rows fun key => !other.contains key, Finset.sdiff_eq_filter]
  congr 1
  apply Finset.filter_congr
  intro key _
  rw [List.mem_toFinset, other.mem_keys_iff, Bool.not_eq_true', Bool.not_eq_true]

end Table

namespace TermCounts

/-- The terms that both counts have, but not equally often. -/
def recountedKeys (old new : TermCounts) : Finset Key :=
  (new.keys.toFinset ∩ old.keys.toFinset).filter fun key => old.count? key ≠ new.count? key

/-- The test that finds the recounted terms asks for another count among the
old ones. -/
theorem any_count_ne_iff {key : Key} {entry : TermCount} (found : new.get? key = some entry) :
    ((old.get? key).any fun known => known.count != entry.count) = true ↔
      key ∈ old.keys ∧ old.count? key ≠ new.count? key := by
  rw [Table.mem_keys_iff, Table.contains, count?, count?, found]
  cases old.get? key with
  | none =>
      refine iff_of_false (fun isRecounted => ?_) fun both => ?_
      · cases isRecounted
      · cases both.1
  | some known =>
      rw [Option.any_some, bne_iff_ne, Option.isSome_some, Option.map_some, Option.map_some,
        Ne, Ne, Option.some_inj]
      exact (and_iff_right rfl).symm

end TermCounts

namespace TermDelta

/-- The recounted terms are those in common that have another count. -/
theorem length_recounted (old new : TermCounts) :
    (between old new).recounted.length = (old.recountedKeys new).card := by
  have tests : ∀ row ∈ new.rows,
      ((old.get? row.1).any fun known => known.count != row.2.count) =
        decide (row.1 ∈ old.keys ∧ old.count? row.1 ≠ new.count? row.1) := by
    intro row isRow
    rw [Bool.eq_iff_iff, decide_eq_true_iff]
    exact TermCounts.any_count_ne_iff (new.get?_eq_some_iff.mpr isRow)
  unfold between
  rw [List.length_map, List.filter_congr tests, new.length_filter_rows fun key =>
    decide (key ∈ old.keys ∧ old.count? key ≠ new.count? key)]
  congr 1
  apply Finset.ext
  intro key
  simp only [TermCounts.recountedKeys, Finset.mem_filter, Finset.mem_inter, List.mem_toFinset,
    decide_eq_true_iff, and_assoc]

/-- A difference has the sizes of the two set differences, and of the terms in
common that are recounted. -/
theorem sizes_between (old new : TermCounts) : (between old new).sizes =
    ⟨(new.keys.toFinset \ old.keys.toFinset).card, (old.keys.toFinset \ new.keys.toFinset).card,
      (old.recountedKeys new).card⟩ := by
  unfold sizes
  rw [length_recounted]
  unfold between
  rw [List.length_map, List.length_map, Table.length_filter_not_contains,
    Table.length_filter_not_contains]

end TermDelta

/-! ## Both indexes of a store -/

namespace Store

variable {store : Store} {old new : TermCounts} {id : String}

/-- The difference the other way round brings the store back. -/
theorem changeTerms_changeTerms (oldFiled : old.Filed) (newFiled : new.Filed)
    (held : forall order, HasRows order (store.index order) id old) :
    (store.changeTerms id old new).changeTerms id new old = store := by
  have byPath := TermDelta.apply_apply oldFiled newFiled (held .byPath)
  have byValue := TermDelta.apply_apply oldFiled newFiled (held .byValue)
  simp only [index] at byPath byValue
  simp only [changeTerms, byPath, byValue]

/-- Changing the terms of a record, where the store has exactly the rows of the
old counts, rewrites the record: its rows are those of the new counts, those
of other records stay, and the change back restores the store.  The reported
numbers are those of the terms that only the new counts have, that only the old
ones have, and that both have in different numbers. -/
theorem changeTerms_rewrites (oldFiled : old.Filed) (newFiled : new.Filed)
    (held : forall order, HasRows order (store.index order) id old) :
    (forall order,
      HasRows order ((store.changeTerms id old new).index order) id new ∧
      (store.changeTerms id old new).index order =
        old.rewrite new order id (store.index order) ∧
      (forall key, ¬ Term.IsKeyOf order id key ->
        ((store.changeTerms id old new).index order).get? key = (store.index order).get? key) ∧
      forall other, other ≠ id -> forall key, Term.IsKeyOf order other key ->
        ((store.changeTerms id old new).index order).get? key = (store.index order).get? key) ∧
    (TermDelta.between old new).sizes =
      ⟨(new.keys.toFinset \ old.keys.toFinset).card,
        (old.keys.toFinset \ new.keys.toFinset).card, (old.recountedKeys new).card⟩ ∧
    (store.changeTerms id old new).changeTerms id new old = store := by
  refine ⟨fun order => ?_, TermDelta.sizes_between old new,
    changeTerms_changeTerms oldFiled newFiled held⟩
  rw [index_changeTerms]
  refine ⟨TermDelta.hasRows_apply oldFiled newFiled (held order),
    TermDelta.apply_eq_rewrite oldFiled newFiled (held order),
    fun key => TermDelta.get?_apply_of_not_isKeyOf, fun other different key isOther => ?_⟩
  exact TermDelta.get?_apply_of_not_isKeyOf fun own => different (isOther.unique own)

/-- A text that is replaced and a term that is recounted, from the store that
has just been given the old terms. -/
theorem changeTerms_rewrites_retagged :
    let old := TermCounts.ofTerms [⟨["tags"], .text "old"⟩, ⟨["kind"], .bool true⟩]
    let new := TermCounts.ofTerms
      [⟨["kind"], .bool true⟩, ⟨["tags"], .text "new"⟩, ⟨["kind"], .bool true⟩]
    let store := Store.empty.changeTerms "note" .empty old
    (forall order, HasRows order (store.index order) "note" old) ∧
      (forall order, HasRows order ((store.changeTerms "note" old new).index order) "note" new) ∧
      (TermDelta.between old new).sizes = ⟨1, 1, 1⟩ ∧
      (store.changeTerms "note" old new).changeTerms "note" new old = store := by
  intro old new store
  have oldFiled : old.Filed := TermCounts.filed_ofTerms _
  have newFiled : new.Filed := TermCounts.filed_ofTerms _
  have nothing : forall order, HasRows order (Store.empty.index order) "note" .empty := by
    intro order
    rw [hasRows_iff TermCounts.Keyed.empty.filed]
    intro term
    cases order with
    | byPath => rfl
    | byValue => rfl
  have held : forall order, HasRows order (store.index order) "note" old := fun order =>
    ((changeTerms_rewrites TermCounts.Keyed.empty.filed oldFiled nothing).1 order).1
  obtain ⟨rows, _, back⟩ := changeTerms_rewrites oldFiled newFiled held
  exact ⟨held, fun order => (rows order).1, by decide +kernel, back⟩

end Store

end RecordIndex
