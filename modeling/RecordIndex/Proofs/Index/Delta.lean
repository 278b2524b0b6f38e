import RecordIndex.Proofs.Term.Counts

namespace RecordIndex

/-!
# Changing the terms of a record

A difference of term counts, carried over to an index that holds a record
under the old counts, leaves an index that holds it under the new ones.  The
entries of other records are not touched.
-/

/-- The index holds a record under exactly these terms, each with its count. -/
def IndexHolds (order : IndexOrder) (index : Table Key Nat) (id : String)
    (counts : TermCounts) : Prop :=
  forall term : Term, term.HasLeaf -> index.get? (term.key order id) = counts.count? term.encode

namespace TermDelta

variable {old new : TermCounts} {entry : TermCount}

/-! ## The parts of a difference -/

theorem mem_removed_iff : entry ∈ (between old new).removed ↔
    ∃ key, old.get? key = some entry ∧ new.get? key = none := by
  unfold between
  simp only [Table.mem_map_filter_iff, Bool.not_eq_true', Table.contains_eq_false_iff]

theorem mem_added_iff : entry ∈ (between old new).added ↔
    ∃ key, new.get? key = some entry ∧ old.get? key = none := by
  unfold between
  simp only [Table.mem_map_filter_iff, Bool.not_eq_true', Table.contains_eq_false_iff]

theorem mem_recounted_iff : entry ∈ (between old new).recounted ↔
    ∃ key, new.get? key = some entry ∧
      ∃ known, old.get? key = some known ∧ known.count ≠ entry.count := by
  unfold between
  simp only [Table.mem_map_filter_iff, Option.any_eq_true, bne_iff_ne]

/-- A term is removed when only the old counts have it. -/
theorem mem_removed_iff_of_filed (filed : old.Filed) : entry ∈ (between old new).removed ↔
    old.get? entry.term.encode = some entry ∧ new.get? entry.term.encode = none := by
  rw [mem_removed_iff]
  constructor
  · rintro ⟨key, isOld, notNew⟩
    obtain rfl := filed key entry isOld
    exact ⟨isOld, notNew⟩
  · exact fun both => ⟨_, both⟩

/-- A term is written when the new counts have it and the old ones have not got
as many of it. -/
theorem mem_written_iff (filed : new.Filed) :
    entry ∈ (between old new).added ++ (between old new).recounted ↔
      new.get? entry.term.encode = some entry ∧
        old.count? entry.term.encode ≠ some entry.count := by
  rw [List.mem_append, mem_added_iff, mem_recounted_iff]
  constructor
  · rintro (⟨key, isNew, notOld⟩ | ⟨key, isNew, known, isOld, different⟩)
    · obtain rfl := filed key entry isNew
      refine ⟨isNew, fun same => ?_⟩
      rw [TermCounts.count?, notOld] at same
      cases same
    · obtain rfl := filed key entry isNew
      refine ⟨isNew, fun same => different ?_⟩
      rw [TermCounts.count?, isOld] at same
      exact Option.some.inj same
  · rintro ⟨isNew, different⟩
    rw [TermCounts.count?] at different
    cases isOld : old.get? entry.term.encode with
    | none => exact .inl ⟨_, isNew, isOld⟩
    | some known =>
        rw [isOld] at different
        exact .inr ⟨_, isNew, known, isOld, fun same => different (congrArg some same)⟩

/-! ## Carrying a difference over -/

variable {order : IndexOrder} {id : String}

/-- Only keys that the counts give to the record are touched. -/
theorem get?_apply_of_other {key : Key} (other : forall entry : TermCount,
      entry ∈ old.values ∨ entry ∈ new.values -> entry.term.key order id ≠ key)
    (index : Table Key Nat) :
    ((between old new).apply order id index).get? key = index.get? key := by
  unfold apply
  rw [Table.get?_insertAll_of_notMem, Table.get?_eraseAll_of_notMem]
  · intro member
    obtain ⟨entry, isRemoved, isKey⟩ := List.mem_map.mp member
    obtain ⟨key', isOld, _⟩ := mem_removed_iff.mp isRemoved
    exact other entry (.inl ((Table.mem_values_iff old).mpr ⟨key', isOld⟩)) isKey
  · intro row member
    obtain ⟨entry, isWritten, rfl⟩ := List.mem_map.mp member
    refine other entry (.inr ((Table.mem_values_iff new).mpr ?_))
    rcases List.mem_append.mp isWritten with isAdded | isRecounted
    · obtain ⟨key', isNew, _⟩ := mem_added_iff.mp isAdded
      exact ⟨key', isNew⟩
    · obtain ⟨key', isNew, _⟩ := mem_recounted_iff.mp isRecounted
      exact ⟨key', isNew⟩

/-- A term that is written gets its new count. -/
theorem get?_apply_of_written (filed : new.Filed) {term : Term}
    (isNew : new.get? term.encode = some entry)
    (different : old.count? term.encode ≠ some entry.count) (index : Table Key Nat) :
    ((between old new).apply order id index).get? (term.key order id) = some entry.count := by
  have isTerm := filed _ entry isNew
  have sameKey : entry.term.key order id = term.key order id := Term.key_inj.mpr ⟨isTerm, rfl⟩
  rw [← isTerm] at isNew different
  unfold apply
  apply Table.get?_insertAll_of_mem
  · refine List.mem_map.mpr ⟨entry, (mem_written_iff filed).mpr ⟨isNew, different⟩, ?_⟩
    rw [sameKey]
  · intro row member rowKey
    obtain ⟨other, otherWritten, rfl⟩ := List.mem_map.mp member
    have isNew' := ((mem_written_iff filed).mp otherWritten).1
    rw [(Term.key_inj.mp (rowKey.trans sameKey.symm)).1, isNew] at isNew'
    exact congrArg TermCount.count (Option.some.inj isNew').symm

/-- A term that is not written is at most erased. -/
theorem get?_apply_of_not_written (filed : new.Filed) {term : Term}
    (unchanged : ∀ entry ∈ new.get? term.encode, old.count? term.encode = some entry.count)
    (index : Table Key Nat) :
    ((between old new).apply order id index).get? (term.key order id) =
      (index.eraseAll ((between old new).removed.map fun entry => entry.term.key order id)).get?
        (term.key order id) := by
  unfold apply
  refine Table.get?_insertAll_of_notMem ?_ _
  intro row member sameKey
  obtain ⟨entry, isWritten, rfl⟩ := List.mem_map.mp member
  obtain ⟨isNew, different⟩ := (mem_written_iff filed).mp isWritten
  rw [(Term.key_inj.mp sameKey).1] at isNew different
  exact different (unchanged entry isNew)

/-- A term that the old counts have alone is erased. -/
theorem get?_erased (filed : old.Filed) {term : Term} (notNew : new.get? term.encode = none)
    {index : Table Key Nat} (held : index.get? (term.key order id) = old.count? term.encode) :
    (index.eraseAll ((between old new).removed.map fun entry => entry.term.key order id)).get?
      (term.key order id) = none := by
  cases isOld : old.get? term.encode with
  | none =>
      apply Table.get?_eraseAll_of_none
      rw [held, TermCounts.count?, isOld]
      rfl
  | some known =>
      have isTerm := filed _ known isOld
      refine Table.get?_eraseAll_of_mem (List.mem_map.mpr ⟨known, ?_, ?_⟩) _
      · rw [mem_removed_iff_of_filed filed, isTerm]
        exact ⟨isOld, notNew⟩
      · exact Term.key_inj.mpr ⟨isTerm, rfl⟩

/-- A term that the new counts have stays. -/
theorem get?_not_erased (filed : old.Filed) {term : Term}
    (isNew : new.get? term.encode = some entry) (index : Table Key Nat) :
    (index.eraseAll ((between old new).removed.map fun entry => entry.term.key order id)).get?
      (term.key order id) = index.get? (term.key order id) := by
  apply Table.get?_eraseAll_of_notMem
  intro member
  obtain ⟨other, isRemoved, sameKey⟩ := List.mem_map.mp member
  have notNew := ((mem_removed_iff_of_filed filed).mp isRemoved).2
  rw [(Term.key_inj.mp sameKey).1, isNew] at notNew
  cases notNew

/-- Where the index has the old count of a term, it has the new one behind the
change. -/
theorem get?_apply (oldFiled : old.Filed) (newFiled : new.Filed) {index : Table Key Nat}
    {term : Term} (held : index.get? (term.key order id) = old.count? term.encode) :
    ((between old new).apply order id index).get? (term.key order id) =
      new.count? term.encode := by
  cases isNew : new.get? term.encode with
  | none =>
      have unchanged : ∀ entry ∈ new.get? term.encode,
          old.count? term.encode = some entry.count := by
        rw [isNew]
        exact nofun
      rw [get?_apply_of_not_written newFiled unchanged, get?_erased oldFiled isNew held,
        TermCounts.count?, isNew]
      rfl
  | some entry =>
      have counted : new.count? term.encode = some entry.count := by
        rw [TermCounts.count?, isNew]
        rfl
      rw [counted]
      by_cases same : old.count? term.encode = some entry.count
      · have unchanged : ∀ entry ∈ new.get? term.encode,
            old.count? term.encode = some entry.count := by
          intro entry' isEntry
          rw [isNew] at isEntry
          cases isEntry
          exact same
        rw [get?_apply_of_not_written newFiled unchanged, get?_not_erased oldFiled isNew, held,
          same]
      · exact get?_apply_of_written newFiled isNew same index

/-- The index holds the new counts behind the change. -/
theorem indexHolds_apply (oldKeyed : old.Keyed) (newKeyed : new.Keyed) {index : Table Key Nat}
    (held : IndexHolds order index id old) :
    IndexHolds order ((between old new).apply order id index) id new :=
  fun term hasLeaf => get?_apply oldKeyed.filed newKeyed.filed (held term hasLeaf)

end TermDelta

namespace Store

theorem index_changeTerms (store : Store) (id : String) (old new : TermCounts)
    (order : IndexOrder) :
    (store.changeTerms id old new).index order =
      (TermDelta.between old new).apply order id (store.index order) := by
  cases order with
  | byPath => rfl
  | byValue => rfl

end Store

end RecordIndex
