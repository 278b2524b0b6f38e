import RecordIndex.Proofs.Index.Delta

namespace RecordIndex

/-!
# What a change leaves alone

A change of some records leaves alone what is kept under other keys: the
records there, and the entries that these have in the indexes.  Whatever is
changed, the keys of the indexes stay those of terms.
-/

/-- The key is that of a term of some record. -/
def IndexEntry.IsLegible (order : IndexOrder) (key : Key) : Prop :=
  ∃ term id, Term.HasLeaf term ∧ term.key order id = key

namespace Store

/-- All keys of the indexes are those of terms. -/
def IsLegible (store : Store) : Prop :=
  forall order, ∀ row ∈ (store.index order).rows, IndexEntry.IsLegible order row.1

/-- From one store to another, only what is kept under these keys changes. -/
structure Changes (written : List String) (before after : Store) : Prop where
  records : forall key, key ∉ written -> after.records.get? key = before.records.get? key
  entries : forall key, key ∉ written -> forall order (term : Term), term.HasLeaf ->
    (after.index order).get? (term.key order key) = (before.index order).get? (term.key order key)
  legible : before.IsLegible -> after.IsLegible

variable {written : List String} {before middle after : Store}

theorem Changes.refl (written : List String) (store : Store) : Changes written store store :=
  ⟨fun _ _ => rfl, fun _ _ _ _ _ => rfl, id⟩

theorem Changes.trans (first : Changes written before middle)
    (second : Changes written middle after) : Changes written before after where
  records key absent := (second.records key absent).trans (first.records key absent)
  entries key absent order term hasLeaf :=
    (second.entries key absent order term hasLeaf).trans (first.entries key absent order term hasLeaf)
  legible := second.legible ∘ first.legible

theorem Changes.among {key : String} {more : List String} (changes : Changes [key] before after)
    (member : key ∈ more) : Changes more before after := by
  have apart {other : String} (absent : other ∉ more) : other ∉ [key] :=
    fun same => absent (List.mem_singleton.mp same ▸ member)
  exact ⟨fun other absent => changes.records other (apart absent),
    fun other absent => changes.entries other (apart absent), changes.legible⟩

/-- The indexes stay, and of the records only that under the key changes. -/
theorem changes_of_records {key : String}
    (indexes : forall order, after.index order = before.index order)
    (records : forall other, other ≠ key ->
      after.records.get? other = before.records.get? other) : Changes [key] before after where
  records other absent := records other (mt List.mem_singleton.mpr absent)
  entries other absent order term hasLeaf := by
    rw [indexes order]
  legible legible order := by
    rw [indexes order]
    exact legible order

theorem changes_putRecord (store : Store) (key : String) (vector : FeatureVector)
    (record : StoredRecord) :
    Changes [key] store ((store.putVector key vector).putRecord key record) := by
  refine changes_of_records (fun order => ?_) fun other different => ?_
  · unfold putVector
    split
    all_goals
      cases order with
      | byPath => rfl
      | byValue => rfl
  · unfold putVector
    split
    all_goals exact Table.get?_insert_of_ne different store.records record

theorem changes_removeRecord (store : Store) (key : String) :
    Changes [key] store ((store.removeRecord key).removeVector key) := by
  refine changes_of_records (fun order => ?_) fun other different =>
    Table.get?_erase_of_ne different store.records
  cases order with
  | byPath => rfl
  | byValue => rfl

/-- Only entries of the record are changed. -/
theorem changes_changeTerms (store : Store) (id : String) {old new : TermCounts}
    (oldKeyed : old.Keyed) (newKeyed : new.Keyed) :
    Changes [id] store (store.changeTerms id old new) where
  records _ _ := rfl
  entries key absent order term hasLeaf := by
    rw [index_changeTerms]
    refine TermDelta.get?_apply_of_other (fun entry _ sameKey => ?_) _
    exact absent (List.mem_singleton.mpr (Term.key_inj.mp sameKey).2.symm)
  legible legible order row isRow := by
    rw [index_changeTerms] at isRow
    by_cases own : ∃ term : Term, term.HasLeaf ∧ term.key order id = row.1
    · rcases own with ⟨term, hasLeaf, isKey⟩
      exact ⟨term, id, hasLeaf, isKey⟩
    · have found := (Table.get?_eq_some_iff _).mpr isRow
      rw [TermDelta.get?_apply_of_other fun entry isEntry isKey =>
        own ⟨entry.term, isEntry.elim oldKeyed.hasLeaf newKeyed.hasLeaf, isKey⟩] at found
      exact legible order row ((Table.get?_eq_some_iff _).mp found)

end Store

end RecordIndex
