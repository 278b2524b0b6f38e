import RecordIndex.Proofs.Database.Integrity
import RecordIndex.Proofs.Query.Fallback
import RecordIndex.Proofs.Query.Inside

namespace RecordIndex

/-!
# Queries for a type and what is bound to it

A query for a type goes by keys.  It hands out what lies under the identities
of the type, whatever that is bound to.  A record that is bound to the type
lies there, but so may others: records that were stored under no type, and
those of a type whose name begins with the name of the first one and an at
sign.  So a query for a type hands out nothing but its records exactly when
nothing else lies among its identities.
-/

namespace Database

/-- There is a record under the key, and it is bound to the type. -/
def IsBound (database : Database) (typeName key : String) : Prop :=
  ∃ record, database.store.records.get? key = some record ∧ record.typeName = some typeName

/-- Every hit of a query for the type that is pulled on this database is bound
to the type.  The query may have been made on this or on another database, and
have been pulled there before. -/
structure FindsOnly (database : Database) (typeName : String) : Prop where
  byIndex : forall (origin : Database) (pattern : Pattern) (valueMatch : Option Pattern)
    (select : Option Projection) (options : IndexOptions) (range : IndexRange),
      options.typeName = some typeName ->
      origin.findByIndex pattern valueMatch select options = .ok range ->
        forall hit, database.HandsOut range hit -> database.IsBound typeName hit.key
  byVector : forall (origin : Database) (query : VectorQuery) (valueMatch : Option Pattern)
    (select : Option Projection) (options : VectorOptions) (range : VectorRange),
      options.typeName = some typeName ->
      origin.findByVector query valueMatch select options = .ok range ->
        forall hit, database.HandsOut range hit -> database.IsBound typeName hit.key

/-- To read all records under the identities of a type. -/
def readAll (typeName : String) : IndexOptions where
  typeName := some typeName
  sortable := true
  scanFallback := true

/-- A query that reads all records under the identities of a type hands out
each of them. -/
theorem handsOut_readAll {database : Database} (readsRows : 0 < database.config.scanBatch)
    {typeName key : String} {record : StoredRecord}
    (isRecord : database.store.records.get? key = some record)
    (isIdentity : Store.IsIdentity typeName key) :
    ∃ range hit, database.findByIndex (.nested []) none none (readAll typeName) = .ok range ∧
      database.HandsOut range hit ∧ hit.key = key := by
  have noTerms : database.search (.nested []) (readAll typeName) =
      .forTerms [] (readAll typeName) database.config.tokenizer?.isSome := rfl
  have drained : Source.drain database.config.scanBatch database.store
      (database.search (.nested []) (readAll typeName)) =
        .ok ((database.store.records.range (Store.typeRange typeName).1
          (Store.typeRange typeName).2).map fun row => ⟨row.1, 0⟩) := by
    rw [noTerms]
    exact IndexMatches.drain_noTerms readsRows database.store (readAll typeName) _
  let candidates := sortByScore ((database.store.records.range (Store.typeRange typeName).1
    (Store.typeRange typeName).2).map fun row => ⟨row.1, 0⟩)
  let range : IndexRange :=
    ⟨.listed candidates, indexPage (.nested []) none none (readAll typeName)⟩
  have opened : database.findByIndex (.nested []) none none (readAll typeName) = .ok range :=
    congrArg (Except.map _) drained
  have whole : range.page.IsWhole := ⟨rfl, rfl⟩
  have reads : database.Reads range (candidates.filterMap (range.page.hit? database.store)) :=
    reads_of_drain whole range.source (Source.drain_listed _ _ candidates)
  refine ⟨range, ⟨key, record.value, record.version, 0⟩, opened, reads.handsOut _ ?_, rfl⟩
  refine List.mem_filterMap.mpr ⟨⟨key, 0⟩, ?_, Page.hit?_of_record isRecord rfl⟩
  refine (List.mergeSort_perm _ _).mem_iff.mpr (List.mem_map.mpr ⟨(key, record), ?_, rfl⟩)
  exact List.mem_filter.mpr ⟨(Table.get?_eq_some_iff _).mp isRecord,
    Store.inRange_of_prefix isIdentity⟩

/-- The queries for a type hand out nothing but its records exactly when every
record that lies under an identity of the type is bound to it. -/
theorem findsOnly_iff {database : Database} (reachable : Reachable (fun _ _ => True) database)
    (typeName : String) : database.FindsOnly typeName ↔
      forall key record, database.store.records.get? key = some record ->
        Store.IsIdentity typeName key -> record.typeName = some typeName := by
  constructor
  · intro finds key record isRecord isIdentity
    rcases handsOut_readAll (orderly_of_reachable reachable).readsRows isRecord isIdentity with
      ⟨range, hit, opened, handsOut, rfl⟩
    rcases finds.byIndex database _ _ _ _ range rfl opened hit handsOut with
      ⟨bound, isBound, isTyped⟩
    cases isRecord.symm.trans isBound
    exact isTyped
  · intro areBound
    constructor
    · intro origin pattern valueMatch select options range isType opened hit handsOut
      rcases inside_of_findByIndex isType opened handsOut with ⟨isIdentity, record, isRecord⟩
      exact ⟨record, isRecord, areBound hit.key record isRecord isIdentity⟩
    · intro origin query valueMatch select options range isType opened hit handsOut
      rcases inside_of_findByVector isType opened handsOut with ⟨isIdentity, record, isRecord⟩
      exact ⟨record, isRecord, areBound hit.key record isRecord isIdentity⟩

/-- The only record is bound to its type. -/
theorem findsOnly_firstPut : (blank.after firstPut).FindsOnly "P" := by
  refine (findsOnly_iff reachable_after_firstPut "P").mpr fun key record isRecord _ => ?_
  cases (record_after_firstPut_iff.mp isRecord).2
  rfl

/-! ## A record without a type -/

/-- To store a named person under no type. -/
def untypedPut : Request :=
  .put (some "P@1") (.object [("name", .string "john")]) {}

/-- To make a type known of which nothing is said. -/
def namePeople : Request :=
  .defineSchema "P" {}

theorem run_untypedPut : (untypedPut.pending blank).run blank.start =
    (.ok (some ⟨"P@1", .object [("name", .string "john")], none, none, none⟩), blank.start) :=
  rfl

theorem records_untyped : ((blank.after untypedPut).after namePeople).store.records.rows =
    [("P@1", ⟨1, none, .object [("name", .string "john")]⟩)] := by
  let schema := (blank.after untypedPut).registry.resolve "P" {}
  have isAfter : (blank.after untypedPut).after namePeople =
      (blank.after untypedPut).withSchema schema :=
    write_defineSchema (blank.after untypedPut) schema
  rcases reindexed_eq (blank.after untypedPut) schema with ⟨byPath, byValue, isStore⟩
  rw [isAfter]
  unfold withSchema
  rw [isStore]
  unfold untypedPut
  rw [after_put run_untypedPut rfl]
  rfl

/-- A record that was stored under an identity of a type before the type was
known is found by a query for the type. -/
theorem not_findsOnly_untyped :
    Reachable (fun _ _ => True) ((blank.after untypedPut).after namePeople) ∧
      ¬ ((blank.after untypedPut).after namePeople).FindsOnly "P" := by
  have reachable : Reachable (fun _ _ => True) ((blank.after untypedPut).after namePeople) :=
    .step (.step (.opened openStore_blank) trivial) trivial
  have isRecord : ((blank.after untypedPut).after namePeople).store.records.get? "P@1" =
      some ⟨1, none, .object [("name", .string "john")]⟩ := by
    rw [Table.get?, records_untyped]
    rfl
  refine ⟨reachable, fun finds => ?_⟩
  have isIdentity : Store.IsIdentity "P" "P@1" := ⟨['1'], rfl⟩
  rcases handsOut_readAll (orderly_of_reachable reachable).readsRows isRecord isIdentity with
    ⟨range, hit, opened, handsOut, isKey⟩
  rcases finds.byIndex _ _ _ _ _ range rfl opened hit handsOut with ⟨bound, isBound, isTyped⟩
  rw [isKey, isRecord] at isBound
  cases isBound
  cases isTyped

end Database

end RecordIndex
