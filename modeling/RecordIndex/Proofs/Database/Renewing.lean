import RecordIndex.Proofs.Database.Typed
import RecordIndex.Proofs.Index.VectorRows

namespace RecordIndex

/-!
# Making vectors anew

To make the vectors of a type anew goes by keys, as queries do: it visits what
lies under the identities of the type, whatever that is bound to.  And it asks
whether a vector has places filled before it is seen that these may hold what
is not a number.  So it renews the vectors of the records of the type, and of
nothing else, exactly when nothing else lies among the identities of the type
and no record of it has a hollow vector.
-/

namespace Store

/-- The records that are bound to a type, wherever they lie. -/
def boundTo (store : Store) (typeName : String) : List (String × StoredRecord) :=
  store.records.rows.filter fun row => row.2.typeName == some typeName

/-- The records under the identities of a type, whatever they are bound to. -/
def underIdentities (store : Store) (typeName : String) : List (String × StoredRecord) :=
  store.records.range (typeRange typeName).1 (typeRange typeName).2

theorem mem_boundTo_iff {store : Store} {typeName key : String} {record : StoredRecord} :
    (key, record) ∈ store.boundTo typeName ↔
      store.records.get? key = some record ∧ record.typeName = some typeName := by
  unfold boundTo
  rw [List.mem_filter, Table.get?_eq_some_iff, beq_iff_eq]

theorem mem_underIdentities_iff {store : Store} {typeName key : String} {record : StoredRecord} :
    (key, record) ∈ store.underIdentities typeName ↔
      store.records.get? key = some record ∧ IsIdentity typeName key := by
  unfold underIdentities
  rw [Table.mem_range_iff]
  exact and_congr_right fun _ => inRange_iff typeName key

theorem ascending_underIdentities (store : Store) (typeName : String) :
    Rows.Ascending (store.underIdentities typeName) :=
  store.records.ascending_range _ _

end Store

namespace Database

/-- To make the vectors of the type anew counts its records, gives each of them
the vector that the schema makes of its value, and leaves all else alone. -/
structure RenewsVectors (database : Database) (typeName : String) (schema : Schema) : Prop where
  counts : (database.reindexVectors typeName).1 = .ok (database.store.boundTo typeName).length
  renews : ∀ row ∈ database.store.boundTo typeName,
    (database.reindexVectors typeName).2.store.vectors.get? row.1 =
      FeatureVector.row? (schema.vector row.2.value)
  spares : forall key, key ∉ (database.store.boundTo typeName).map Prod.fst ->
    (database.reindexVectors typeName).2.store.vectors.get? key = database.store.vectors.get? key
  keepsRest : ∃ vectors, (database.reindexVectors typeName).2 =
    { database with store := { database.store with vectors } }

variable {database : Database} {typeName : String} {schema : Schema}

/-- What is answered, and what is there afterwards. -/
theorem reindexVectors_eq (keepsVectors : database.config.vectors = true)
    (isSchema : database.registry.get? typeName = some schema)
    (hasFeatures : schema.hasFeatures = true) :
    database.reindexVectors typeName =
      (.ok (database.store.underIdentities typeName).length,
        { database with
          store := (database.store.underIdentities typeName).foldl (fun store row =>
            store.putVector row.1 (schema.vector row.2.value)) database.store }) := by
  have found : database.vectorSchema (some typeName) = .ok (some schema) := by
    have isFound : (database.registry.get? typeName).filter Schema.hasFeatures = some schema :=
      Option.filter_eq_some_iff.mpr ⟨isSchema, hasFeatures⟩
    unfold vectorSchema
    rw [keepsVectors]
    dsimp only
    rw [isFound]
    rfl
  unfold reindexVectors
  rw [found]
  rfl

/-- Every vector under an identity of the type is replaced, and no other. -/
theorem get?_vectors_reindexVectors (keepsVectors : database.config.vectors = true)
    (isSchema : database.registry.get? typeName = some schema)
    (hasFeatures : schema.hasFeatures = true) (key : String) :
    (database.reindexVectors typeName).2.store.vectors.get? key =
      match Rows.get? key (database.store.underIdentities typeName) with
      | some record => FeatureVector.keptRow? (schema.vector record.value)
      | none => database.store.vectors.get? key := by
  have nodup := (database.store.ascending_underIdentities typeName).nodup_keys
  rw [reindexVectors_eq keepsVectors isSchema hasFeatures]
  exact Store.get?_vectors_putVectors (fun record => schema.vector record.value) nodup
    database.store key

/-- The records of a type are those under its identities that are bound to it. -/
theorem Orderly.boundTo_eq (orderly : database.Orderly) (typeName : String) :
    database.store.boundTo typeName =
      (database.store.underIdentities typeName).filter fun row =>
        row.2.typeName == some typeName := by
  unfold Store.boundTo Store.underIdentities Table.range
  rw [List.filter_filter]
  refine List.filter_congr fun row isRow => ?_
  cases isTyped : row.2.typeName == some typeName with
  | false => rfl
  | true =>
      have kept := orderly.kept row.1 row.2 ((Table.get?_eq_some_iff _).mpr isRow)
      have isPlaced := kept.isPlaced
      rw [eq_of_beq isTyped] at isPlaced
      exact (Store.inRange_of_prefix ((Store.isPlaced_iff row.1 typeName).mp isPlaced)).symm

/-- As many records are counted as are bound to the type exactly if nothing else
lies under its identities. -/
theorem Orderly.length_underIdentities_iff (orderly : database.Orderly) (typeName : String) :
    (database.store.underIdentities typeName).length =
        (database.store.boundTo typeName).length ↔
      forall key record, database.store.records.get? key = some record ->
        Store.IsIdentity typeName key -> record.typeName = some typeName := by
  rw [orderly.boundTo_eq, eq_comm, List.length_filter_eq_length_iff]
  constructor
  · intro areBound key record isRecord isIdentity
    exact eq_of_beq (areBound (key, record)
      (Store.mem_underIdentities_iff.mpr ⟨isRecord, isIdentity⟩))
  · rintro areBound ⟨key, record⟩ isRow
    rcases Store.mem_underIdentities_iff.mp isRow with ⟨isRecord, isIdentity⟩
    exact beq_iff_eq.mpr (areBound key record isRecord isIdentity)

/-- The vector of a record of the type is kept as the schema makes it. -/
theorem Orderly.renewed (orderly : database.Orderly) (keepsVectors : database.config.vectors = true)
    (isSchema : database.registry.get? typeName = some schema)
    (hasFeatures : schema.hasFeatures = true) {key : String} {record : StoredRecord}
    (isBound : (key, record) ∈ database.store.boundTo typeName) :
    (database.reindexVectors typeName).2.store.vectors.get? key =
      FeatureVector.keptRow? (schema.vector record.value) := by
  have ascending := database.store.ascending_underIdentities typeName
  rw [orderly.boundTo_eq] at isBound
  have isRow := (Rows.get?_eq_some_iff ascending).mpr (List.mem_filter.mp isBound).1
  rw [get?_vectors_reindexVectors keepsVectors isSchema hasFeatures, isRow]

/-- The vectors of a type are made anew as they should exactly when every record
under an identity of the type is bound to it and no record of the type has a
hollow vector. -/
theorem renewsVectors_iff (reachable : Reachable (fun _ _ => True) database)
    (keepsVectors : database.config.vectors = true)
    (isSchema : database.registry.get? typeName = some schema)
    (hasFeatures : schema.hasFeatures = true) :
    database.RenewsVectors typeName schema ↔
      (forall key record, database.store.records.get? key = some record ->
        Store.IsIdentity typeName key -> record.typeName = some typeName) ∧
      forall key record, database.store.records.get? key = some record ->
        record.typeName = some typeName -> ¬ FeatureVector.IsHollow (schema.vector record.value) := by
  have orderly := orderly_of_reachable reachable
  have answered := reindexVectors_eq keepsVectors isSchema hasFeatures
  constructor
  · intro renewing
    have counted := renewing.counts
    rw [answered] at counted
    refine ⟨(orderly.length_underIdentities_iff typeName).mp (Except.ok.inj counted), ?_⟩
    intro key record isRecord isTyped
    have isBound := Store.mem_boundTo_iff.mpr ⟨isRecord, isTyped⟩
    have kept := orderly.renewed keepsVectors isSchema hasFeatures isBound
    exact (FeatureVector.keptRow?_eq_row?_iff _).mp (kept.symm.trans (renewing.renews _ isBound))
  · rintro ⟨areBound, notHollow⟩
    refine ⟨?_, ?_, ?_, ?_⟩
    · rw [answered, (orderly.length_underIdentities_iff typeName).mpr areBound]
    · rintro ⟨key, record⟩ isBound
      rcases Store.mem_boundTo_iff.mp isBound with ⟨isRecord, isTyped⟩
      rw [orderly.renewed keepsVectors isSchema hasFeatures isBound]
      exact (FeatureVector.keptRow?_eq_row?_iff _).mpr (notHollow key record isRecord isTyped)
    · intro key notBound
      rw [get?_vectors_reindexVectors keepsVectors isSchema hasFeatures]
      split
      · rename_i record isRow
        rcases Store.mem_underIdentities_iff.mp (Rows.mem_of_get? isRow) with
          ⟨isRecord, isIdentity⟩
        have isTyped := areBound key record isRecord isIdentity
        exact absurd (List.mem_map.mpr ⟨_, Store.mem_boundTo_iff.mpr ⟨isRecord, isTyped⟩, rfl⟩)
          notBound
      · rfl
    · rcases putVectors_eq database.store (fun record => schema.vector record.value)
        (database.store.underIdentities typeName) with ⟨vectors, folded⟩
      refine ⟨vectors, ?_⟩
      rw [answered]
      exact congrArg (fun store => { database with store }) folded

/-! ## People who are told by their names -/

/-- A database that keeps vectors and has nothing in it. -/
def charting : Database :=
  { blank with config := { blank.config with vectors := true } }

theorem openStore_charting : openStore charting.config .empty .fresh = .ok charting := by
  simp [openStore, Config.validate, charting, blank, Config.indexSettings]
  rfl

/-- A schema of one feature, a name out of a list of one. -/
def nameSchema : Schema :=
  { Schema.ofType "P" with features := [⟨["name"], .categorical ["john"] true⟩] }

/-- To have vectors made of the names of people. -/
def chartNames : Request :=
  .defineSchema "P" { features := some nameSchema.features }

/-- A database with one person of the type, whose vector tells the name. -/
def chartedJohn : Database :=
  (charting.after chartNames).after firstPut

theorem run_firstPut_chartNames :
    (firstPut.pending (charting.after chartNames)).run (charting.after chartNames).start =
      (.ok (some ⟨"P@1", .object [("#", .string "P@1"), ("name", .string "john")], some "P", none,
        none⟩), (charting.after chartNames).start) := by
  change (Write.pendingPut _ (some "P@1") _ _).run _ = _
  unfold Write.pendingPut
  simp [Write.putKey, Write.record?, checkPlace_firstPut]
  rfl

theorem records_chartedJohn : chartedJohn.store.records.rows = [("P@1", john)] := by
  unfold chartedJohn firstPut
  rw [after_put run_firstPut_chartNames rfl]
  rfl

theorem isSchema_chartedJohn : chartedJohn.registry.get? "P" = some nameSchema := by
  unfold chartedJohn firstPut
  rw [after_put run_firstPut_chartNames rfl]
  rfl

theorem keepsVectors_chartedJohn : chartedJohn.config.vectors = true := by
  unfold chartedJohn firstPut
  rw [after_put run_firstPut_chartNames rfl]
  rfl

theorem reachable_chartedJohn : Reachable (fun _ _ => True) chartedJohn :=
  .step (.step (.opened openStore_charting) trivial) trivial

theorem vector_john : nameSchema.vector john.value = [some .one] := by
  decide

theorem vectors_chartedJohn : chartedJohn.store.vectors.rows = [("P@1", [some .one])] := by
  unfold chartedJohn firstPut
  rw [after_put run_firstPut_chartNames rfl]
  rfl

/-- The only record is bound to its type, and its vector holds a number. -/
theorem renewsVectors_chartedJohn :
    chartedJohn.RenewsVectors "P" nameSchema ∧ chartedJohn.store.boundTo "P" = [("P@1", john)] := by
  have isJohn {key : String} {record : StoredRecord}
      (isRecord : chartedJohn.store.records.get? key = some record) : record = john := by
    rw [Table.get?_eq_some_iff, records_chartedJohn, List.mem_singleton, Prod.mk.injEq] at isRecord
    exact isRecord.2
  constructor
  · refine (renewsVectors_iff reachable_chartedJohn keepsVectors_chartedJohn isSchema_chartedJohn
      rfl).mpr ⟨?_, ?_⟩
    · intro key record isRecord _
      rw [isJohn isRecord]
      rfl
    · intro key record isRecord _ hollow
      rw [isJohn isRecord, vector_john] at hollow
      exact absurd (hollow.2 .one List.mem_cons_self) (by decide)
  · unfold Store.boundTo
    rw [records_chartedJohn]
    rfl

/-- A database in which that person was stored under no type before there was
any. -/
def unboundJohn : Database :=
  (charting.after untypedPut).after chartNames

theorem run_untypedPut_charting : (untypedPut.pending charting).run charting.start =
    (.ok (some ⟨"P@1", .object [("name", .string "john")], none, none, none⟩), charting.start) :=
  rfl

theorem unboundJohn_eq : unboundJohn = (charting.after untypedPut).withSchema nameSchema := by
  have resolved : (charting.after untypedPut).registry.resolve "P"
      { features := some nameSchema.features } = nameSchema := by
    unfold untypedPut
    rw [after_put run_untypedPut_charting rfl]
    rfl
  rw [← resolved]
  exact write_defineSchema (charting.after untypedPut) _

theorem records_unboundJohn : unboundJohn.store.records.rows =
    [("P@1", ⟨1, none, .object [("name", .string "john")]⟩)] := by
  rcases reindexed_eq (charting.after untypedPut) nameSchema with ⟨byPath, byValue, isStore⟩
  rw [unboundJohn_eq]
  unfold withSchema
  rw [isStore]
  unfold untypedPut
  rw [after_put run_untypedPut_charting rfl]
  rfl

/-- A record that lies under an identity of a type and is not bound to it is
counted among the records of the type. -/
theorem not_renewsVectors_unboundJohn :
    Reachable (fun _ _ => True) unboundJohn ∧ unboundJohn.config.vectors = true ∧
      unboundJohn.registry.get? "P" = some nameSchema ∧ nameSchema.hasFeatures = true ∧
      unboundJohn.store.boundTo "P" = [] ∧ ¬ unboundJohn.RenewsVectors "P" nameSchema := by
  have reachable : Reachable (fun _ _ => True) unboundJohn :=
    .step (.step (.opened openStore_charting) trivial) trivial
  have keepsVectors : unboundJohn.config.vectors = true := by
    rw [unboundJohn_eq]
    unfold withSchema untypedPut
    rw [after_put run_untypedPut_charting rfl]
    rfl
  have isSchema : unboundJohn.registry.get? "P" = some nameSchema := by
    rw [unboundJohn_eq]
    exact Table.get?_insert_self _ "P" nameSchema
  have isRecord : unboundJohn.store.records.get? "P@1" =
      some ⟨1, none, .object [("name", .string "john")]⟩ := by
    rw [Table.get?, records_unboundJohn]
    rfl
  refine ⟨reachable, keepsVectors, isSchema, rfl, ?_, fun renewing => ?_⟩
  · unfold Store.boundTo
    rw [records_unboundJohn]
    rfl
  · have areBound := ((renewsVectors_iff reachable keepsVectors isSchema rfl).mp renewing).1
    have isTyped := areBound "P@1" _ isRecord ⟨['1'], rfl⟩
    cases isTyped

end Database

end RecordIndex
