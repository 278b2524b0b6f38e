import RecordIndex.Proofs.Index.Delta

namespace RecordIndex

/-!
# What the indexes hold

Both indexes of a store hold, for every record, the terms that are expected of
it, and nothing else.  A change of the terms of one record keeps that up, and
so does a change of the terms of many.
-/

namespace TermCounts

theorem Agree.refl (counts : TermCounts) : counts.Agree counts :=
  fun _ => rfl

end TermCounts

theorem IndexHolds.congr {order : IndexOrder} {index : Table Key Nat} {id : String}
    {first second : TermCounts} (held : IndexHolds order index id first)
    (agree : first.Agree second) : IndexHolds order index id second :=
  fun term hasLeaf => (held term hasLeaf).trans (agree term.encode)

namespace Store

/-- The indexes hold what is expected of each identity, and nothing else. -/
structure Holds (store : Store) (expected : String -> TermCounts) : Prop where
  holds : forall order id, IndexHolds order (store.index order) id (expected id)
  covers : forall order key count, (store.index order).get? key = some count ->
    ∃ term id, Term.HasLeaf term ∧ term.key order id = key

/-- What is expected when the terms of one identity are changed. -/
def expectAt (expected : String -> TermCounts) (id : String) (counts : TermCounts)
    (other : String) : TermCounts :=
  if other = id then counts else expected other

variable {store : Store} {expected expected' : String -> TermCounts}

theorem Holds.congr (holds : store.Holds expected)
    (agree : forall id, (expected id).Agree (expected' id)) : store.Holds expected' where
  holds order id := (holds.holds order id).congr (agree id)
  covers := holds.covers

/-- Only the indexes count. -/
theorem Holds.of_index_eq {store' : Store} (holds : store.Holds expected)
    (same : forall order, store'.index order = store.index order) : store'.Holds expected where
  holds order id := (same order).symm ▸ holds.holds order id
  covers order := (same order).symm ▸ holds.covers order

theorem Holds.empty : Store.empty.Holds fun _ => .empty where
  holds order _ _ _ := by
    cases order with
    | byPath => rfl
    | byValue => rfl
  covers order _ _ found := by
    cases order with
    | byPath => cases found
    | byValue => cases found

/-- An entry of an index is a term that is expected of a record. -/
theorem Holds.get?_eq_some_iff (holds : store.Holds expected) (order : IndexOrder) {key : Key}
    {count : Nat} : (store.index order).get? key = some count ↔
      ∃ term id, Term.HasLeaf term ∧ term.key order id = key ∧
        (expected id).count? term.encode = some count := by
  constructor
  · intro found
    obtain ⟨term, id, hasLeaf, rfl⟩ := holds.covers order key count found
    exact ⟨term, id, hasLeaf, rfl, (holds.holds order id term hasLeaf).symm.trans found⟩
  · rintro ⟨term, id, hasLeaf, rfl, counted⟩
    exact (holds.holds order id term hasLeaf).trans counted

/-! ## Changes -/

/-- The terms of one record are brought from what is expected to new ones. -/
theorem Holds.changeTerms (holds : store.Holds expected) {id : String} {old new : TermCounts}
    (oldKeyed : old.Keyed) (newKeyed : new.Keyed) (agree : (expected id).Agree old) :
    (store.changeTerms id old new).Holds (expectAt expected id new) where
  holds order other := by
    rw [index_changeTerms]
    by_cases same : other = id
    · subst same
      have held := (holds.holds order other).congr agree
      unfold expectAt
      rw [if_pos rfl]
      exact TermDelta.indexHolds_apply oldKeyed newKeyed held
    · unfold expectAt
      rw [if_neg same]
      intro term hasLeaf
      rw [TermDelta.get?_apply_of_other]
      · exact holds.holds order other term hasLeaf
      · exact fun entry _ sameKey => same (Term.key_inj.mp sameKey).2.symm
  covers order key count found := by
    rw [index_changeTerms] at found
    by_cases own : ∃ term : Term, term.HasLeaf ∧ term.key order id = key
    · obtain ⟨term, hasLeaf, isKey⟩ := own
      exact ⟨term, id, hasLeaf, isKey⟩
    · rw [TermDelta.get?_apply_of_other fun entry isEntry isKey =>
        own ⟨entry.term, isEntry.elim oldKeyed.hasLeaf newKeyed.hasLeaf, isKey⟩] at found
      exact holds.covers order key count found

/-- What is expected when each of a list of records goes over to new terms. -/
def expectAll (expected : String -> TermCounts) (rows : List (String × StoredRecord))
    (termsOf : StoredRecord -> TermCounts) (id : String) : TermCounts :=
  match Rows.get? id rows with
  | some record => termsOf record
  | none => expected id

/-- The terms of many records are changed one after another. -/
theorem Holds.changeAll (old new : StoredRecord -> TermCounts)
    (oldKeyed : forall record, (old record).Keyed) (newKeyed : forall record, (new record).Keyed)
    {rows : List (String × StoredRecord)} (distinct : (rows.map Prod.fst).Nodup)
    (holds : store.Holds expected)
    (agree : ∀ row ∈ rows, (expected row.1).Agree (old row.2)) :
    Holds (rows.foldl (fun store row => store.changeTerms row.1 (old row.2) (new row.2)) store)
      (expectAll expected rows new) := by
  induction rows generalizing store expected with
  | nil => exact holds
  | cons row rest ih =>
      obtain ⟨id, record⟩ := row
      obtain ⟨notLater, distinct⟩ := List.nodup_cons.mp distinct
      have first := holds.changeTerms (oldKeyed record) (newKeyed record)
        (agree (id, record) List.mem_cons_self)
      have restAgrees : ∀ row ∈ rest,
          (expectAt expected id (new record) row.1).Agree (old row.2) := by
        intro row member
        have different : row.1 ≠ id := fun same => notLater (List.mem_map.mpr ⟨row, member, same⟩)
        rw [expectAt, if_neg different]
        exact agree row (List.mem_cons_of_mem _ member)
      apply (ih distinct first restAgrees).congr
      intro other
      unfold expectAll
      by_cases same : other = id
      · subst same
        have absent : Rows.get? other rest = none := by
          refine Option.eq_none_iff_forall_ne_some.mpr fun record found => notLater ?_
          exact List.mem_map.mpr ⟨(other, record), Rows.mem_of_get? found, rfl⟩
        rw [absent, Rows.get?_cons_self, expectAt, if_pos rfl]
        exact TermCounts.Agree.refl _
      · rw [Rows.get?_cons_of_ne same, expectAt, if_neg same]
        exact TermCounts.Agree.refl _

end Store

end RecordIndex
