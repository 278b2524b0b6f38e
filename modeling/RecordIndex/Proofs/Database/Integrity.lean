import RecordIndex.Proofs.Database.Consistency
import RecordIndex.Proofs.Index.Rows

namespace RecordIndex

/-!
# Consistent databases

A database is consistent when the rows of each index are, in some order, one
row for every distinct term of every record with the number of times that the
record holds it.  A check of a consistent database finds nothing, and a database
that is asked carefully stays consistent.
-/

namespace Database

variable {database : Database}

/-- The rows that an index should have: one for every distinct term of every
record, with its count. -/
def indexRows (database : Database) (order : IndexOrder) : List (Key × Nat) :=
  database.store.records.rows.flatMap fun row =>
    (database.expectedTerms row.2).values.map fun entry =>
      (entry.term.key order row.1, entry.count)

/-- Each index has exactly the rows that it should have. -/
def Consistent (database : Database) : Prop :=
  forall order, (database.store.index order).rows.Perm (database.indexRows order)

theorem keyed_termsAt (database : Database) (key : String) :
    (database.store.termsAt database.expectedTerms key).Keyed :=
  keyed_getD_map (keyed_expectedTerms database) _

theorem mem_indexRows_iff {order : IndexOrder} {key : Key} {count : Nat} :
    (key, count) ∈ database.indexRows order ↔
      ∃ term id, Term.HasLeaf term ∧ term.key order id = key ∧
        (database.store.termsAt database.expectedTerms id).count? term.encode = some count := by
  unfold indexRows
  rw [List.mem_flatMap]
  constructor
  · rintro ⟨⟨id, record⟩, isRow, member⟩
    rcases (TermCounts.mem_indexRows_iff_of_keyed
      (keyed_expectedTerms database record)).mp member with
      ⟨term, hasLeaf, isKey, counted⟩
    refine ⟨term, id, hasLeaf, isKey, ?_⟩
    unfold Store.termsAt
    rw [database.store.records.get?_eq_some_iff.mpr isRow]
    exact counted
  · rintro ⟨term, id, hasLeaf, isKey, counted⟩
    unfold Store.termsAt at counted
    cases found : database.store.records.get? id with
    | none =>
        rw [found] at counted
        cases counted
    | some record =>
        rw [found] at counted
        refine ⟨(id, record), database.store.records.get?_eq_some_iff.mp found, ?_⟩
        exact (TermCounts.mem_indexRows_iff_of_keyed (keyed_expectedTerms database record)).mpr
          ⟨term, hasLeaf, isKey, counted⟩

theorem nodup_indexRows (database : Database) (order : IndexOrder) :
    (database.indexRows order).Nodup := by
  unfold indexRows
  refine List.pairwise_flatMap.mpr ⟨?_, ?_⟩
  · intro row _
    exact TermCounts.nodup_indexRows (keyed_expectedTerms database row.2).filed order row.1
  · refine List.Pairwise.imp ?_ database.store.records.ascending
    intro first second below row member row' member' same
    rcases row with ⟨key, count⟩
    subst same
    rcases (TermCounts.mem_indexRows_iff_of_keyed
      (keyed_expectedTerms database first.2)).mp member with
      ⟨term, hasLeaf, isKey, _⟩
    rcases (TermCounts.mem_indexRows_iff_of_keyed
      (keyed_expectedTerms database second.2)).mp member' with
      ⟨term', hasLeaf', isKey', _⟩
    have sameId := (Term.key_inj.mp (isKey.trans isKey'.symm)).2
    exact Rows.not_lt_self second.1 (sameId ▸ below)

/-- To be consistent is to hold the expected terms under their keys. -/
theorem consistent_iff : database.Consistent ↔ database.IndexesHold := by
  constructor
  · intro consistent
    have isRow (order : IndexOrder) (key : Key) (count : Nat) :
        (database.store.index order).get? key = some count ↔
          ∃ term id, Term.HasLeaf term ∧ term.key order id = key ∧
            (database.store.termsAt database.expectedTerms id).count? term.encode =
              some count := by
      rw [Table.get?_eq_some_iff, (consistent order).mem_iff]
      exact mem_indexRows_iff
    refine ⟨?_, ?_⟩
    · intro order id term hasLeaf
      apply Option.ext
      intro count
      rw [isRow]
      constructor
      · rintro ⟨term', id', hasLeaf', isKey, counted⟩
        rcases Term.key_inj.mp isKey with ⟨sameTerm, rfl⟩
        exact sameTerm ▸ counted
      · exact fun counted => ⟨term, id, hasLeaf, rfl, counted⟩
    · intro order key count found
      rcases (isRow order key count).mp found with ⟨term, id, hasLeaf, isKey, _⟩
      exact ⟨term, id, hasLeaf, isKey⟩
  · intro holds order
    refine (List.perm_ext_iff_of_nodup (database.store.index order).ascending.nodup
      (database.nodup_indexRows order)).mpr ?_
    rintro ⟨key, count⟩
    rw [← Table.get?_eq_some_iff, holds.get?_eq_some_iff, mem_indexRows_iff]

/-! ## The check -/

/-- The record that a row of an index belongs to. -/
def owner (order : IndexOrder) (key : Key) : String :=
  match IndexEntry.ofKey? order key with
  | .ok entry => entry.id
  | .error _ => ""

theorem owner_key {term : Term} (hasLeaf : term.HasLeaf) (order : IndexOrder) (id : String) :
    owner order (term.key order id) = id := by
  unfold owner
  rw [IndexEntry.ofKey?_key order hasLeaf]

theorem owners_eq {order : IndexOrder} {rows : List (Key × Nat)}
    (readable : ∀ row ∈ rows, ∃ term id, Term.HasLeaf term ∧ term.key order id = row.1) :
    owners order rows = .ok (rows.map fun row => (owner order row.1, row)) := by
  unfold owners
  induction rows with
  | nil => rfl
  | cons row rest ih =>
      rcases readable row List.mem_cons_self with ⟨term, id, hasLeaf, isKey⟩
      have ih := ih fun row later => readable row (List.mem_cons_of_mem _ later)
      rw [List.mapM_cons, ih, ← isKey, IndexEntry.ofKey?_key order hasLeaf, List.map_cons, ← isKey,
        owner_key hasLeaf]
      rfl

theorem rowsOf_eq (order : IndexOrder) (id : String) (rows : List (Key × Nat)) :
    rowsOf id (rows.map fun row => (owner order row.1, row)) =
      rows.filter fun row => owner order row.1 == id := by
  unfold rowsOf
  rw [List.filter_map, List.map_map]
  exact List.map_id _

/-- The rows that belong to a record are those that it should have. -/
theorem rowsOf_index (holds : database.IndexesHold) (order : IndexOrder) (id : String) :
    (database.store.index order).rows.filter (fun row => owner order row.1 == id) =
      ((Table.empty : Table Key Nat).insertAll
        ((database.store.termsAt database.expectedTerms id).values.map fun entry =>
          (entry.term.key order id, entry.count))).rows := by
  have keyed := database.keyed_termsAt id
  refine Rows.eq_of_mem_iff (List.Pairwise.filter _ (database.store.index order).ascending)
    (Table.ascending _) ?_
  rintro ⟨key, count⟩
  rw [List.mem_filter, ← Table.get?_eq_some_iff, ← Table.get?_eq_some_iff,
    holds.get?_eq_some_iff, beq_iff_eq]
  have agree := TermCounts.agree_indexRows keyed.filed order id
  refine Iff.trans ?_ ((Table.get?_insertAll_empty_iff agree).trans
    (TermCounts.mem_indexRows_iff_of_keyed keyed)).symm
  constructor
  · rintro ⟨⟨term, id', hasLeaf, rfl, counted⟩, isOwner⟩
    have isOwner : owner order (term.key order id') = id := isOwner
    rw [owner_key hasLeaf] at isOwner
    subst isOwner
    exact ⟨term, hasLeaf, rfl, counted⟩
  · rintro ⟨term, hasLeaf, rfl, counted⟩
    exact ⟨⟨term, id, hasLeaf, rfl, counted⟩, owner_key hasLeaf order id⟩

/-- Every row of an index can be read. -/
theorem readable_index (holds : database.IndexesHold) (order : IndexOrder) :
    ∀ row ∈ (database.store.index order).rows,
      ∃ term id, Term.HasLeaf term ∧ term.key order id = row.1 :=
  fun row member => holds.covers order row.1 row.2 (Table.get?_eq_some_iff _ |>.mpr member)

/-- The rows of each record are those that it should have. -/
theorem expectedRows_eq (holds : database.IndexesHold) (id : String) :
    (⟨rowsOf id ((database.store.index .byPath).rows.map fun row => (owner .byPath row.1, row)),
      rowsOf id ((database.store.index .byValue).rows.map fun row =>
        (owner .byValue row.1, row))⟩ : RecordRows) = database.expectedRows id := by
  rw [rowsOf_eq, rowsOf_eq, rowsOf_index holds, rowsOf_index holds]
  unfold expectedRows Store.termsAt
  cases database.store.records.get? id with
  | none => rfl
  | some record => rfl

/-- The check of a consistent database finds nothing. -/
theorem checkIntegrity_of_indexesHold (holds : database.IndexesHold) :
    database.checkIntegrity = .ok [] := by
  have byPath := owners_eq (readable_index holds .byPath)
  have byValue := owners_eq (readable_index holds .byValue)
  change owners .byPath database.store.byPath.rows = _ at byPath
  change owners .byValue database.store.byValue.rows = _ at byValue
  unfold checkIntegrity
  rw [byPath, byValue]
  refine congrArg Except.ok (List.filter_eq_nil_iff.mpr fun id _ => ?_)
  rw [expectedRows_eq holds id, decide_eq_true_eq]
  exact fun different => different rfl

/-- A database that is only asked carefully is consistent after every request,
so its check finds nothing. -/
theorem consistent_of_reachable
    (reachable : Reachable (fun database request => request.Careful database) database) :
    database.Consistent ∧ database.checkIntegrity = .ok [] :=
  have holds := indexesHold_of_reachable reachable
  ⟨consistent_iff.mpr holds, checkIntegrity_of_indexesHold holds⟩

/-! ## A first record -/

/-- A database that was opened on nothing, for whole strings. -/
def blank : Database where
  config := { fullText := false, stopWords := [] }
  store := { Store.empty with
    settings := (Table.empty.insert "fulltext" "false").insert "stop_words" "[]" }
  registry := .empty
  supply := .fresh

theorem openStore_blank : openStore blank.config .empty .fresh = .ok blank := by
  simp [openStore, Config.validate, blank, Config.indexSettings]
  rfl

/-- To store a named person. -/
def firstPut : Request :=
  .put (some "P@1") (.object [("name", .string "john")]) { typeName := some "P" }

theorem checkPlace_firstPut : Write.checkPlace "P@1" (some "P") = .ok () :=
  (Store.isPlaced_iff "P@1" "P").mpr ⟨['1'], rfl⟩

/-- Whatever its settings are, an empty database finds out the same to store. -/
theorem run_firstPut_on (config : Config) (settings : Table String String) :
    (firstPut.pending ⟨config, { Store.empty with settings }, .empty, .fresh⟩).run
        (start ⟨config, { Store.empty with settings }, .empty, .fresh⟩) =
      (.ok (some ⟨"P@1", .object [("#", .string "P@1"), ("name", .string "john")], some "P", none,
        none⟩), ⟨{ Store.empty with settings }, Registry.define .empty (.ofType "P"), .fresh⟩) := by
  change (Write.pendingPut _ (some "P@1") _ _).run _ = _
  unfold Write.pendingPut
  simp [Write.putKey, Write.record?, checkPlace_firstPut]
  rfl

theorem careful_firstPut_on (config : Config) (settings : Table String String) :
    firstPut.Careful ⟨config, { Store.empty with settings }, .empty, .fresh⟩ where
  isFaithful := by
    rintro pending ⟨txn, ran⟩
    rw [run_firstPut_on] at ran
    cases ran
    exact TermCounts.Agree.refl _
  drawsFresh := nofun

theorem run_firstPut : (firstPut.pending blank).run blank.start =
    (.ok (some ⟨"P@1", .object [("#", .string "P@1"), ("name", .string "john")], some "P", none,
      none⟩), ⟨blank.store, Registry.define .empty (.ofType "P"), .fresh⟩) :=
  run_firstPut_on _ _

theorem careful_firstPut : firstPut.Careful blank :=
  careful_firstPut_on _ _

/-- The record of that person. -/
def john : StoredRecord where
  version := 1
  typeName := some "P"
  body := .object [("#", .string "P@1"), ("name", .string "john")]

theorem records_after_firstPut :
    (blank.after firstPut).store.records.rows = [("P@1", john)] := by
  unfold firstPut
  rw [after_put run_firstPut rfl]
  rfl

theorem record_after_firstPut_iff {key : String} {record : StoredRecord} :
    (blank.after firstPut).store.records.get? key = some record ↔
      key = "P@1" ∧ record = john := by
  rw [Table.get?_eq_some_iff, records_after_firstPut, List.mem_singleton, Prod.mk.injEq]

theorem found_firstPut : (blank.after firstPut).store.records.get? "P@1" = some john :=
  record_after_firstPut_iff.mpr ⟨rfl, rfl⟩

theorem registry_after_firstPut :
    (blank.after firstPut).registry.rows = [("P", .ofType "P")] := by
  unfold firstPut
  rw [after_put run_firstPut rfl]
  rfl

theorem isRegistered_after_firstPut : ((blank.after firstPut).registry.get? "P").isSome := by
  rw [Table.get?, registry_after_firstPut]
  rfl

theorem plainNames_after_firstPut (name : String)
    (isRegistered : ((blank.after firstPut).registry.get? name).isSome) : '@' ∉ name.toList := by
  rcases Option.isSome_iff_exists.mp isRegistered with ⟨schema, isSchema⟩
  rw [Table.get?_eq_some_iff, registry_after_firstPut] at isSchema
  cases List.mem_singleton.mp isSchema
  decide

theorem config_after_firstPut : (blank.after firstPut).config = blank.config := by
  unfold firstPut
  rw [after_put run_firstPut rfl]

theorem reachable_after_firstPut : Reachable (fun _ _ => True) (blank.after firstPut) :=
  .step (.opened openStore_blank) trivial

theorem indexesHold_after_firstPut : (blank.after firstPut).IndexesHold :=
  indexesHold_of_reachable (.step (.opened openStore_blank) careful_firstPut)

/-! ### The person under another name -/

/-- To store another name in place of that of the person. -/
def renamePut : Request :=
  .put (some "P@1") (.object [("name", .string "jane")]) { typeName := some "P" }

theorem run_renamePut :
    (renamePut.pending (blank.after firstPut)).run (blank.after firstPut).start =
      (.ok (some ⟨"P@1", .object [("#", .string "P@1"), ("name", .string "jane")], some "P", none,
        some john⟩), (blank.after firstPut).start) := by
  change (Write.pendingPut _ (some "P@1") _ _).run _ = _
  unfold firstPut
  rw [after_put run_firstPut rfl]
  unfold Write.pendingPut
  simp [Write.putKey, Write.record?, checkPlace_firstPut]
  rfl

theorem careful_renamePut : renamePut.Careful (blank.after firstPut) where
  isFaithful := by
    rintro pending ⟨txn, ran⟩
    rw [run_renamePut] at ran
    cases ran
    exact TermCounts.Agree.refl _
  drawsFresh := nofun

/-- Both indexes have two rows for the record, one of them for the new name and
none for the old one. -/
theorem consistent_after_renamePut :
    let database := (blank.after firstPut).after renamePut
    (database.Consistent ∧ database.checkIntegrity = .ok []) ∧
      forall order, (database.store.index order).rows =
        [(Term.key order ⟨["#"], .text "P@1"⟩ "P@1", 1),
          (Term.key order ⟨["name"], .text "jane"⟩ "P@1", 1)] := by
  intro database
  refine ⟨?_, fun order => ?_⟩
  · exact consistent_of_reachable
      (.step (.step (.opened openStore_blank) careful_firstPut) careful_renamePut)
  · cases order with
    | byPath => decide +kernel
    | byValue => decide +kernel

end Database

end RecordIndex
