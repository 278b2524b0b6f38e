import RecordIndex.Proofs.Term.Counts

namespace RecordIndex

/-!
# The rows of a record

Counts give a record one row in an index for each distinct term, with the number
of times that the record holds it.  The key of a row tells the term and the
record, so rows of one key are one row, and no record has a row of another one.
-/

/-- The record can have a row under this key. -/
def Term.IsKeyOf (order : IndexOrder) (id : String) (key : Key) : Prop :=
  ∃ term : Term, term.key order id = key

/-- A key tells its record. -/
theorem Term.IsKeyOf.unique {order : IndexOrder} {id other : String} {key : Key}
    (isKey : Term.IsKeyOf order id key) (isKey' : Term.IsKeyOf order other key) : id = other := by
  obtain ⟨term, rfl⟩ := isKey
  obtain ⟨term', sameKey⟩ := isKey'
  exact (Term.key_eq_iff.mp sameKey).2.symm

namespace TermCounts

/-- The rows that counts give to a record. -/
def indexRows (counts : TermCounts) (order : IndexOrder) (id : String) : List (Key × Nat) :=
  counts.values.map fun entry => (entry.term.key order id, entry.count)

variable {counts : TermCounts} {order : IndexOrder} {id : String}

/-- Each row has the key of an entry. -/
theorem of_mem_indexRows {row : Key × Nat} (member : row ∈ counts.indexRows order id) :
    ∃ entry ∈ counts.values, entry.term.key order id = row.1 := by
  obtain ⟨entry, isEntry, rfl⟩ := List.mem_map.mp member
  exact ⟨entry, isEntry, rfl⟩

theorem isKeyOf_of_mem_indexRows {row : Key × Nat} (member : row ∈ counts.indexRows order id) :
    Term.IsKeyOf order id row.1 := by
  obtain ⟨entry, _, isKey⟩ := of_mem_indexRows member
  exact ⟨entry.term, isKey⟩

/-- Each distinct term has one row, with its count. -/
theorem mem_indexRows_iff (filed : counts.Filed) {term : Term} {count : Nat} :
    (term.key order id, count) ∈ counts.indexRows order id ↔
      counts.count? term.encode = some count := by
  unfold indexRows
  rw [List.mem_map, count?, Option.map_eq_some_iff]
  constructor
  · rintro ⟨entry, isEntry, same⟩
    obtain ⟨sameKey, rfl⟩ := Prod.mk.inj same
    have found := (mem_values_iff filed).mp isEntry
    rw [(Term.key_inj.mp sameKey).1] at found
    exact ⟨entry, found, rfl⟩
  · rintro ⟨entry, found, rfl⟩
    have isTerm := filed _ entry found
    refine ⟨entry, (mem_values_iff filed).mpr (isTerm.symm ▸ found), ?_⟩
    rw [Term.key_inj.mpr ⟨isTerm, rfl⟩]

/-- The rows are those of terms with leaves. -/
theorem mem_indexRows_iff_of_keyed (keyed : counts.Keyed) {key : Key} {count : Nat} :
    (key, count) ∈ counts.indexRows order id ↔
      ∃ term : Term, term.HasLeaf ∧ term.key order id = key ∧
        counts.count? term.encode = some count := by
  constructor
  · intro member
    obtain ⟨entry, isEntry, rfl⟩ := of_mem_indexRows member
    exact ⟨entry.term, keyed.hasLeaf isEntry, rfl, (mem_indexRows_iff keyed.filed).mp member⟩
  · rintro ⟨term, _, rfl, counted⟩
    exact (mem_indexRows_iff keyed.filed).mpr counted

theorem mem_keys_indexRows_iff (filed : counts.Filed) {term : Term} :
    term.key order id ∈ (counts.indexRows order id).map Prod.fst ↔
      (counts.count? term.encode).isSome = true := by
  rw [List.mem_map, Option.isSome_iff_exists]
  constructor
  · rintro ⟨⟨_, count⟩, isRow, rfl⟩
    exact ⟨count, (mem_indexRows_iff filed).mp isRow⟩
  · rintro ⟨count, counted⟩
    exact ⟨_, (mem_indexRows_iff filed).mpr counted, rfl⟩

/-- Rows of one key have one count. -/
theorem agree_indexRows (filed : counts.Filed) (order : IndexOrder) (id : String) :
    ∀ row ∈ counts.indexRows order id, ∀ row' ∈ counts.indexRows order id,
      row.1 = row'.1 -> row.2 = row'.2 := by
  rintro ⟨key, count⟩ member ⟨key', count'⟩ member' same
  cases same
  obtain ⟨entry, _, rfl⟩ := of_mem_indexRows member
  rw [mem_indexRows_iff filed] at member member'
  rw [member] at member'
  exact Option.some.inj member'

theorem nodup_indexRows (filed : counts.Filed) (order : IndexOrder) (id : String) :
    (counts.indexRows order id).Nodup := by
  unfold indexRows Table.values
  rw [List.map_map]
  refine List.pairwise_map.mpr (List.Pairwise.imp_of_mem ?_ counts.ascending)
  intro first second isFirst isSecond below same
  have isKey := filed first.1 first.2 (counts.get?_eq_some_iff.mpr isFirst)
  have isKey' := filed second.1 second.2 (counts.get?_eq_some_iff.mpr isSecond)
  have sameTerm := (Term.key_inj.mp (congrArg Prod.fst same)).1
  rw [isKey, isKey'] at sameTerm
  exact Rows.not_lt_self second.1 (sameTerm ▸ below)

end TermCounts

end RecordIndex
