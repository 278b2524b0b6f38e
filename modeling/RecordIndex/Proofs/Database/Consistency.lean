import RecordIndex.Proofs.Database.Orderly
import RecordIndex.Proofs.Index.TypeRange

namespace RecordIndex

/-!
# The indexes follow the records

The indexes of a database hold exactly the terms that are expected of its
records.  No request looks into the indexes for this: each carries over the
difference between the terms of the record that was there and those of the
record that comes.  So the terms that a value has before it is stored must be
those that it has when it is read back, and a drawn key must be a new one.
-/

namespace Store

/-- The terms of the record under a key, if there is one. -/
def termsAt (store : Store) (termsOf : StoredRecord -> TermCounts) (key : String) : TermCounts :=
  ((store.records.get? key).map termsOf).getD .empty

end Store

namespace PendingRecord

/-- The value has the same terms before it is stored and when it is read
back. -/
def Faithful (database : Database) (pending : PendingRecord) : Prop :=
  (database.typedTerms pending.typeName pending.value).Agree
    (database.typedTerms pending.typeName
      (Value.decode (pending.value.encode database.config.keepUndefined)))

end PendingRecord

namespace Request

/-- Whatever the request stores is stored faithfully, and a key that it draws
for a copy is not in use. -/
structure Careful (database : Database) (request : Request) : Prop where
  isFaithful : forall pending, request.Stores database pending -> pending.Faithful database
  drawsFresh : request.DrawsFresh database

end Request

namespace Database

/-- The indexes hold the terms that are expected of the records. -/
def IndexesHold (database : Database) : Prop :=
  database.store.Holds (database.store.termsAt database.expectedTerms)

variable {database : Database}

theorem keyed_expectedTerms (database : Database) (record : StoredRecord) :
    (database.expectedTerms record).Keyed := by
  rw [expectedTerms_eq]
  exact keyed_typedTerms database record.typeName record.value

theorem keyed_getD_map {termsOf : StoredRecord -> TermCounts}
    (keyed : forall record, (termsOf record).Keyed) (record : Option StoredRecord) :
    ((record.map termsOf).getD .empty).Keyed := by
  cases record with
  | none => exact TermCounts.Keyed.empty
  | some record => exact keyed record

/-! ## One record -/

/-- A record is put in place of another one. -/
theorem holds_withRecord {store : Store}
    (holds : store.Holds (store.termsAt database.expectedTerms))
    {pending : PendingRecord} (isPrevious : pending.previous = store.records.get? pending.key)
    (isFaithful : pending.Faithful database) (version : Nat) (vector : FeatureVector) :
    let later := database.withRecord store pending version vector
    later.Holds (later.termsAt database.expectedTerms) := by
  have indexes (order : IndexOrder) : ((store.putVector pending.key vector).putRecord pending.key
      (pending.record database version)).index order = store.index order := by
    unfold Store.putVector
    split
    all_goals
      cases order with
      | byPath => rfl
      | byValue => rfl
  have agree : (store.termsAt database.expectedTerms pending.key).Agree
      ((pending.previous.map database.expectedTerms).getD .empty) := by
    rw [isPrevious]
    exact TermCounts.Agree.refl _
  have changed := (holds.of_index_eq indexes).changeTerms
    (keyed_getD_map (keyed_expectedTerms database) pending.previous)
    (keyed_typedTerms database pending.typeName pending.value) agree
  apply changed.congr
  intro key
  unfold Store.termsAt Store.expectAt
  rw [records_withRecord]
  by_cases same : key = pending.key
  · rw [if_pos same, same, Table.get?_insert_self]
    change TermCounts.Agree _ (database.expectedTerms (pending.record database version))
    rw [expectedTerms_eq]
    exact isFaithful
  · rw [if_neg same, Table.get?_insert_of_ne same]
    exact TermCounts.Agree.refl _

/-- A record is taken away. -/
theorem holds_withoutRecord {store : Store}
    (holds : store.Holds (store.termsAt database.expectedTerms)) {key : String}
    {previous : StoredRecord} (isThere : store.records.get? key = some previous) :
    let later := database.withoutRecord store key previous
    later.Holds (later.termsAt database.expectedTerms) := by
  have indexes (order : IndexOrder) :
      ((store.removeRecord key).removeVector key).index order = store.index order := by
    cases order with
    | byPath => rfl
    | byValue => rfl
  have agree : (store.termsAt database.expectedTerms key).Agree
      (database.expectedTerms previous) := by
    unfold Store.termsAt
    rw [isThere]
    exact TermCounts.Agree.refl _
  have changed := (holds.of_index_eq indexes).changeTerms (keyed_expectedTerms database previous)
    TermCounts.Keyed.empty agree
  apply changed.congr
  intro other
  unfold Store.termsAt Store.expectAt
  rw [records_withoutRecord]
  by_cases same : other = key
  · rw [if_pos same, same, Table.get?_erase_self]
    exact TermCounts.Agree.refl _
  · rw [if_neg same, Table.get?_erase_of_ne same]
    exact TermCounts.Agree.refl _

theorem holds_outcome (holds : database.IndexesHold) {request : Request}
    (careful : request.Careful database) {store : Store} {known : Option String}
    (outcome : Outcome database request store known) :
    store.Holds (store.termsAt database.expectedTerms) := by
  cases outcome with
  | unchanged => exact holds
  | stored stores fits version vector =>
      exact holds_withRecord holds fits.isPrevious (careful.isFaithful _ stores) version vector
  | removed isThere => exact holds_withoutRecord holds isThere
  | moved stores fits isThere apart version vector =>
      have apart := apart careful.drawsFresh
      have copied := holds_withRecord holds fits.isPrevious (careful.isFaithful _ stores) version
        vector
      apply holds_withoutRecord copied
      rw [records_withRecord, Table.get?_insert_of_ne (Ne.symm apart)]
      exact isThere

/-! ## What is expected -/

/-- Databases expect the same terms when the indexed paths of every type and
the settings are the same. -/
theorem expectedTerms_congr {later : Database}
    (paths : forall name,
      (later.schemaOf name).indexedPaths = (database.schemaOf name).indexedPaths)
    (settings : later.config.indexSettings = database.config.indexSettings)
    (record : StoredRecord) : later.expectedTerms record = database.expectedTerms record := by
  rw [expectedTerms_eq, expectedTerms_eq]
  unfold typedTerms
  split
  · rename_i name _
    unfold terms deriver
    refine Deriver.recordCounts_congr (paths name) (fun text => ?_) record.value
    rw [paths name]
    exact Config.textParts_eq settings _ text
  · rfl

/-- A write keeps the indexed paths and the identity property of every type. -/
theorem schemaOf_commit {store : Store} {known : Option String} {txn : Transaction}
    (steady : txn.Steady database store known) (name : String) :
    ((database.commit txn).schemaOf name).indexedPaths =
        (database.schemaOf name).indexedPaths ∧
      ((database.commit txn).schemaOf name).idProperty = (database.schemaOf name).idProperty := by
  have registry : (database.commit txn).registry.get? name =
      (txn.schemas.get? name).or (database.registry.get? name) :=
    get?_defineAll (named_of_steady steady) database.registry name
  cases own : txn.schemas.get? name with
  | none =>
      rw [own] at registry
      unfold schemaOf
      rw [registry]
      exact ⟨rfl, rfl⟩
  | some schema =>
      have isSchema : (database.commit txn).schemaOf name = schema := by
        rw [own] at registry
        unfold schemaOf
        rw [registry]
        rfl
      rw [isSchema]
      exact (steady.stands name schema own).2

/-- What is held depends on the indexes, the records and what is expected of
them. -/
theorem IndexesHold.of_same {later : Database} {store : Store}
    (holds : store.Holds (store.termsAt database.expectedTerms))
    (indexes : forall order, later.store.index order = store.index order)
    (records : later.store.records = store.records)
    (expected : forall record, later.expectedTerms record = database.expectedTerms record) :
    later.IndexesHold := by
  have same : later.expectedTerms = database.expectedTerms := funext expected
  unfold IndexesHold
  rw [same]
  apply (holds.of_index_eq indexes).congr
  intro key
  unfold Store.termsAt
  rw [records]
  exact TermCounts.Agree.refl _

/-! ## Steps -/

theorem IndexesHold.commit (holds : database.IndexesHold) {request : Request}
    (careful : request.Careful database) {txn : Transaction}
    (leads : Write.Leads database request txn) : (database.commit txn).IndexesHold := by
  rcases leads with ⟨store, known, outcome, steady⟩
  refine IndexesHold.of_same (holds_outcome holds careful outcome) ?_ ?_ ?_
  · intro order
    rw [index_commit, steady.isStore]
  · rw [records_commit, steady.isStore]
  · exact expectedTerms_congr (fun name => (schemaOf_commit steady name).1) rfl

theorem schemaOf_withSchema (database : Database) (schema : Schema) (name : String) :
    (database.withSchema schema).schemaOf name =
      if name = schema.typeName then schema else database.schemaOf name := by
  change ((database.registry.define schema).get? name).getD (.ofType name) = _
  rw [get?_define]
  split
  all_goals rfl

theorem expectedTerms_withSchema {schema : Schema} {record : StoredRecord}
    (isTyped : record.typeName = some schema.typeName) :
    (database.withSchema schema).expectedTerms record = database.terms schema record.value := by
  rw [expectedTerms_eq, isTyped]
  change (database.withSchema schema).terms ((database.withSchema schema).schemaOf
    schema.typeName) record.value = _
  rw [schemaOf_withSchema, if_pos rfl]
  rfl

/-- A definition changes the terms of the records of its type only. -/
theorem expectedTerms_withSchema_of_ne {schema : Schema} {record : StoredRecord}
    (otherType : record.typeName ≠ some schema.typeName) :
    (database.withSchema schema).expectedTerms record = database.expectedTerms record := by
  rw [expectedTerms_eq, expectedTerms_eq]
  unfold typedTerms
  split
  · rename_i name isTyped
    have different : name ≠ schema.typeName := fun same => otherType (by rw [isTyped, same])
    rw [schemaOf_withSchema, if_neg different]
    rfl
  · rfl

/-- What is expected of a record of another type stays the same. -/
theorem agree_termsAt_of_ne {schema : Schema} {key : String}
    (otherType : forall record, database.store.records.get? key = some record ->
      record.typeName ≠ some schema.typeName) :
    (database.store.termsAt database.expectedTerms key).Agree
      (database.store.termsAt (database.withSchema schema).expectedTerms key) := by
  unfold Store.termsAt
  cases found : database.store.records.get? key with
  | none => exact TermCounts.Agree.refl _
  | some record =>
      rw [Option.map_some, Option.map_some, Option.getD_some, Option.getD_some,
        expectedTerms_withSchema_of_ne (otherType record found)]
      exact TermCounts.Agree.refl _

/-- The records of a type are indexed under the paths of its new schema. -/
theorem holds_reindexed (holds : database.IndexesHold) (orderly : database.Orderly)
    {old schema : Schema} (isOld : database.registry.get? schema.typeName = some old) :
    Store.Holds ((database.store.recordsOfType schema.typeName).foldl (fun store row =>
        store.changeTerms row.1 (database.terms old row.2.value)
          (database.terms schema row.2.value)) database.store)
      (database.store.termsAt (database.withSchema schema).expectedTerms) := by
  have isMember {key : String} {record : StoredRecord} :
      (key, record) ∈ database.store.recordsOfType schema.typeName ↔
        database.store.records.get? key = some record ∧
          record.typeName = some schema.typeName :=
    Store.mem_recordsOfType_iff orderly.isPlaced
  have ascending := database.store.ascending_recordsOfType schema.typeName
  have isSchema : database.schemaOf schema.typeName = old := by
    unfold schemaOf
    rw [isOld]
    rfl
  have agree : ∀ row ∈ database.store.recordsOfType schema.typeName,
      (database.store.termsAt database.expectedTerms row.1).Agree
        (database.terms old row.2.value) := by
    intro row member
    rcases isMember.mp member with ⟨found, isTyped⟩
    unfold Store.termsAt
    rw [found, Option.map_some, Option.getD_some, expectedTerms_eq, isTyped]
    unfold typedTerms
    dsimp only
    rw [isSchema]
    exact TermCounts.Agree.refl _
  have changed := holds.changeAll (fun record => database.terms old record.value)
    (fun record => database.terms schema record.value)
    (fun record => Deriver.keyed_recordCounts _ record.value)
    (fun record => Deriver.keyed_recordCounts _ record.value) ascending.nodup_keys agree
  apply changed.congr
  intro key
  unfold Store.expectAll
  cases isRow : Rows.get? key (database.store.recordsOfType schema.typeName) with
  | some record =>
      rcases isMember.mp (Rows.mem_of_get? isRow) with ⟨found, isTyped⟩
      unfold Store.termsAt
      rw [found]
      change (database.terms schema record.value).Agree
        ((database.withSchema schema).expectedTerms record)
      rw [expectedTerms_withSchema isTyped]
      exact TermCounts.Agree.refl _
  | none =>
      apply agree_termsAt_of_ne
      intro record found isTyped
      have member := isMember.mpr ⟨found, isTyped⟩
      rw [(Rows.get?_eq_some_iff ascending).mpr member] at isRow
      cases isRow

theorem IndexesHold.withSchema (holds : database.IndexesHold) (orderly : database.Orderly)
    (schema : Schema) : (database.withSchema schema).IndexesHold := by
  have indexes (order : IndexOrder) : (database.withSchema schema).store.index order =
      (database.reindexed schema).index order := by
    cases order with
    | byPath => rfl
    | byValue => rfl
  have records : (database.withSchema schema).store.records = database.store.records := by
    rcases reindexed_eq database schema with ⟨byPath, byValue, isStore⟩
    unfold Database.withSchema
    rw [isStore]
    rfl
  have reindexes : (database.reindexed schema).Holds
      (database.store.termsAt (database.withSchema schema).expectedTerms) := by
    unfold reindexed
    split
    · rename_i old isOld
      split
      · exact holds_reindexed holds orderly isOld
      · rename_i samePaths
        have samePaths := Decidable.not_not.mp samePaths
        have paths (name : String) : ((database.withSchema schema).schemaOf name).indexedPaths =
            (database.schemaOf name).indexedPaths := by
          rw [schemaOf_withSchema]
          split
          · rename_i same
            subst same
            unfold schemaOf
            rw [isOld]
            exact samePaths.symm
          · rfl
        rw [funext (expectedTerms_congr paths rfl)]
        exact holds
    · -- No record can have a type that has no schema.
      rename_i unknown
      refine holds.congr fun key => agree_termsAt_of_ne fun record found isTyped => ?_
      have isKnown := (orderly.kept key record found).isKnown _ isTyped
      rw [unknown] at isKnown
      cases isKnown
  apply (reindexes.of_index_eq indexes).congr
  intro key
  unfold Store.termsAt
  rw [records]
  exact TermCounts.Agree.refl _

/-- Behind a reopening, a type goes by the stored form of its schema. -/
theorem schemaOf_reopened (orderly : database.Orderly) {config : Config} {supply : IdSupply}
    {reopened : Database} (opened : Opened config database.store supply reopened)
    (name : String) : reopened.schemaOf name = (database.schemaOf name).stored := by
  unfold schemaOf
  rw [orderly.get?_reopened opened, orderly.alike]
  cases database.registry.get? name with
  | none => rfl
  | some schema => rfl

theorem IndexesHold.reopened (holds : database.IndexesHold) (orderly : database.Orderly)
    {config : Config} {supply : IdSupply} {reopened : Database}
    (opened : Opened config database.store supply reopened) : reopened.IndexesHold := by
  refine IndexesHold.of_same holds ?_ ?_ ?_
  · intro order
    rw [opened.isStore]
    cases order with
    | byPath => rfl
    | byValue => rfl
  · rw [opened.isStore]
  · have paths (name : String) : (reopened.schemaOf name).indexedPaths =
        (database.schemaOf name).indexedPaths := by
      rw [schemaOf_reopened orderly opened]
      rfl
    apply expectedTerms_congr paths
    rw [opened.isConfig]
    exact indexSettings_eq_of_settled opened.settled
      fun setting member => opened.kept _ _ (orderly.settled setting member)

theorem IndexesHold.step (holds : database.IndexesHold) (orderly : database.Orderly)
    {request : Request} (careful : request.Careful database) {later : Database}
    (step : Step database request later) : later.IndexesHold := by
  cases step with
  | supplied supply => exact holds
  | committed leads => exact holds.commit careful leads
  | defined defines => exact holds.withSchema orderly _
  | vectors vectors =>
      refine IndexesHold.of_same holds (fun order => ?_) rfl (fun _ => rfl)
      cases order with
      | byPath => rfl
      | byValue => rfl
  | reopened opened => exact holds.reopened orderly opened

theorem indexesHold_opened {config : Config} {supply : IdSupply}
    (accepted : openStore config .empty supply = .ok database) : database.IndexesHold := by
  have isStore := (opened_of_openStore accepted).isStore
  have nothing : Store.empty.Holds (Store.empty.termsAt database.expectedTerms) :=
    Store.Holds.empty
  refine IndexesHold.of_same nothing (fun order => ?_) ?_ fun _ => rfl
  · rw [isStore]
    cases order with
    | byPath => rfl
    | byValue => rfl
  · rw [isStore]

theorem indexesHold_of_reachable
    (reachable : Reachable (fun database request => request.Careful database) database) :
    database.IndexesHold := by
  induction reachable with
  | opened accepted =>
      exact indexesHold_opened accepted
  | step reachable isCareful ih =>
      have orderly := orderly_of_reachable reachable
      exact ih.step orderly isCareful (orderly.step_after _)

end Database

end RecordIndex
