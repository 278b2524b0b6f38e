import RecordIndex.Proofs.Database.Integrity
import RecordIndex.Proofs.Query.Reaching
import RecordIndex.Proofs.Query.Scanning

namespace RecordIndex

/-!
# What a scan finds

On a database whose indexes hold the terms of its records, the scan for a term
finds a record only if the record holds a term that satisfies it, and it finds
every record that holds one in the range of its plan, unless it is finished
before it gets there.
-/

namespace Database

variable {database : Database}

/-! ## Entries of the indexes -/

/-- The terms that are derived from a stored record. -/
def derivedTerms (database : Database) (record : StoredRecord) : List Term :=
  match record.typeName with
  | some typeName =>
      (database.deriver ((database.registry.get? typeName).getD (.ofType typeName))).recordTerms
        record.value
  | none => []

theorem expectedTerms_eq_ofTerms (database : Database) (record : StoredRecord) :
    database.expectedTerms record = .ofTerms (database.derivedTerms record) := by
  unfold expectedTerms derivedTerms
  cases record.typeName with
  | none => rfl
  | some typeName => rfl

theorem hasLeaf_of_mem_derivedTerms {record : StoredRecord} {term : Term}
    (member : term ∈ database.derivedTerms record) : term.HasLeaf := by
  unfold derivedTerms at member
  split at member
  · exact Deriver.hasLeaf_of_mem_termsAt member
  · cases member

/-- The entries of an index are the derived terms of the records. -/
theorem exists_entry_iff (holds : database.IndexesHold) (order : IndexOrder) (key : Key) :
    (∃ count, (key, count) ∈ (database.store.index order).rows) ↔
      ∃ id record, database.store.records.get? id = some record ∧
        ∃ term ∈ database.derivedTerms record, term.key order id = key := by
  simp only [← Table.get?_eq_some_iff, holds.get?_eq_some_iff]
  constructor
  · rintro ⟨count, term, id, hasLeaf, rfl, counted⟩
    unfold Store.termsAt at counted
    cases isRecord : database.store.records.get? id with
    | none =>
        rw [isRecord] at counted
        cases counted
    | some record =>
        rw [isRecord, Option.map_some, Option.getD_some, expectedTerms_eq_ofTerms] at counted
        rcases (TermCounts.exists_count?_iff _ _).mp ⟨count, counted⟩ with ⟨term', member, same⟩
        have hasLeaf' := hasLeaf_of_mem_derivedTerms member
        exact ⟨id, record, isRecord, term', member,
          Term.key_inj.mpr ⟨same, rfl⟩⟩
  · rintro ⟨id, record, isRecord, term, member, rfl⟩
    rcases (TermCounts.exists_count?_iff _ _).mpr ⟨term, member, rfl⟩ with ⟨count, counted⟩
    refine ⟨count, term, id, hasLeaf_of_mem_derivedTerms member, rfl, ?_⟩
    unfold Store.termsAt
    rw [isRecord, Option.map_some, Option.getD_some, expectedTerms_eq_ofTerms]
    exact counted

theorem readable_of_indexesHold (holds : database.IndexesHold) :
    TermScan.Readable database.store := by
  intro order row member
  rcases readable_index holds order row member with ⟨term, id, hasLeaf, isKey⟩
  exact ⟨_, isKey ▸ IndexEntry.ofKey?_key order hasLeaf id⟩

/-! ## Scans -/

variable {term : QueryTerm} {typeName : Option String} {tokenized : Bool} {id : String}

/-- What is found for a term holds a term that satisfies it. -/
theorem held_of_mem_finds (holds : database.IndexesHold)
    (found : id ∈ TermScan.finds database.store typeName tokenized term) :
    ∃ record, database.store.records.get? id = some record ∧
      ∃ held ∈ database.derivedTerms record, term.acceptsPath held.path = true ∧
        term.leaf.verdict tokenized held.leaf.keyed = .matched ∧
          TermScan.hasType typeName id = true := by
  rcases TermScan.exists_of_mem_foundIn found with ⟨⟨key, count⟩, isRow, entry, isEntry, isFound⟩
  have isRow := TermScan.sound_forTerm database.store term tokenized _ isRow
  rcases (exists_entry_iff holds _ key).mp ⟨count, isRow⟩ with
    ⟨id', record, isRecord, held, member, rfl⟩
  have read := IndexEntry.ofKey?_key (TermScan.forTerm term tokenized).order
    (hasLeaf_of_mem_derivedTerms member) id'
  cases read.symm.trans isEntry
  rcases TermScan.test_eq_found_iff.mp isFound with ⟨accepts, matched, isTyped, rfl⟩
  exact ⟨record, isRecord, held, member, accepts, matched, isTyped⟩

/-- A record that is found for a term holds a term that satisfies it. -/
theorem held_of_found (holds : database.IndexesHold) {record : StoredRecord}
    (isRecord : database.store.records.get? id = some record)
    (found : id ∈ TermScan.finds database.store typeName tokenized term) :
    ∃ held ∈ database.derivedTerms record, term.acceptsPath held.path = true ∧
      term.leaf.verdict tokenized held.leaf.keyed = .matched := by
  rcases held_of_mem_finds holds found with ⟨record', isRecord', held, isHeld, accepts, matched, _⟩
  cases isRecord.symm.trans isRecord'
  exact ⟨held, isHeld, accepts, matched⟩

/-- The indexes have an entry for the term of the record. -/
def Indexes (database : Database) (term : Term) (id : String) : Prop :=
  ∃ record, database.store.records.get? id = some record ∧ term ∈ database.derivedTerms record

/-- A record is found for a term when the scan comes to a term that it holds. -/
theorem mem_finds_of_held (holds : database.IndexesHold) {record : StoredRecord}
    (isRecord : database.store.records.get? id = some record) {held : Term}
    (member : held ∈ database.derivedTerms record)
    (isTyped : TermScan.hasType typeName id = true)
    (reaches : term.Reaches tokenized database.Indexes held id) :
    id ∈ TermScan.finds database.store typeName tokenized term := by
  have hasLeaf := hasLeaf_of_mem_derivedTerms member
  rcases (exists_entry_iff holds (term.plan tokenized).order _).mpr
    ⟨id, record, isRecord, held, member, rfl⟩ with ⟨count, isRow⟩
  have found : (TermScan.forTerm term tokenized).test typeName ⟨held.path, held.leaf.keyed, id⟩ =
      .found id :=
    TermScan.test_eq_found_iff.mpr ⟨reaches.accepts, reaches.matched, isTyped, rfl⟩
  unfold TermScan.finds TermScan.upcoming
  refine TermScan.mem_foundIn_of_row (List.Pairwise.filter _ (Table.ascending _)) ?_
    (List.mem_filter.mpr ⟨isRow, reaches.inRange⟩) (IndexEntry.ofKey?_key _ hasLeaf id) found ?_
  · intro row isRow
    exact readable_of_indexesHold holds _ row (List.mem_filter.mp isRow).1
  · rintro ⟨key, count'⟩ isBefore before earlier isEarlier finished
    rcases (exists_entry_iff holds _ key).mp ⟨count', (List.mem_filter.mp isBefore).1⟩ with
      ⟨id', record', isRecord', other, isOther, rfl⟩
    have read := IndexEntry.ofKey?_key (TermScan.forTerm term tokenized).order
      (hasLeaf_of_mem_derivedTerms isOther) id'
    cases read.symm.trans isEarlier
    rcases TermScan.done_of_test_eq_finished finished with ⟨stops, accepts', done⟩
    exact reaches.unfinished stops other id' ⟨record', isRecord', isOther⟩ accepts' before done

/-! ## The first record -/

theorem derivedTerms_john : (blank.after firstPut).derivedTerms john =
    [⟨["#"], .text "P@1"⟩, ⟨["name"], .text "john"⟩] := by
  change (Deriver.mk _ _).recordTerms john.value = _
  rw [Table.get?, registry_after_firstPut, config_after_firstPut]
  rfl

end Database

end RecordIndex
