import RecordIndex.Proofs.Database.Requests

namespace RecordIndex

/-!
# The order that every request keeps

Whatever is asked of a database, the stored schemas are the stored forms of its
registry, its settings are those it was indexed under, and every record is the
encoding of a value and lies where its type belongs.
-/

/-- What holds of a record in a database with some registry. -/
structure StoredRecord.Kept (registry : Registry) (key : String) (record : StoredRecord) :
    Prop where
  isKnown : ∀ name ∈ record.typeName, (registry.get? name).isSome
  isPlaced : Write.checkPlace key record.typeName = .ok ()
  isEncoded : ∃ value keepUndefined, record.body = Value.encode keepUndefined value

/-! ## Stored schemas -/

theorem FeatureKind.stored_stored (kind : FeatureKind) : kind.stored.stored = kind.stored := by
  cases kind with
  | numeric low high fixed =>
      simp only [stored, Option.filter_filter, Bool.and_self]
  | categorical categories fixed => rfl

theorem Feature.stored_stored (feature : Feature) : feature.stored.stored = feature.stored := by
  unfold stored
  rw [FeatureKind.stored_stored]

/-- A schema that has been loaded is stored as it is. -/
theorem Schema.stored_stored (schema : Schema) : schema.stored.stored = schema.stored := by
  unfold stored
  dsimp only
  rw [List.map_map, show Feature.stored ∘ Feature.stored = Feature.stored from
    funext Feature.stored_stored]

namespace Database

/-- The order of a database. -/
structure Orderly (database : Database) : Prop where
  readsRows : 0 < database.config.scanBatch
  settled : ∀ setting ∈ database.config.indexSettings,
    database.store.settings.get? setting.1 = some setting.2
  named : Named database.registry
  alike : forall name, database.store.schemas.get? name =
    (database.registry.get? name).map Schema.stored
  kept : forall key record, database.store.records.get? key = some record ->
    record.Kept database.registry key

variable {database : Database}

/-- The records are under keys of their types. -/
theorem Orderly.isPlaced (orderly : database.Orderly) (key : String) :
    ∀ record ∈ database.store.records.get? key, Write.checkPlace key record.typeName = .ok () :=
  fun record found => (orderly.kept key record found).isPlaced

/-! ## Registries -/

/-- Every type of the first registry has a schema in the second one too. -/
def Extends (first second : Registry) : Prop :=
  forall name, (first.get? name).isSome -> (second.get? name).isSome

theorem Kept.mono {first second : Registry} (extended : Extends first second) {key : String}
    {record : StoredRecord} (kept : record.Kept first key) : record.Kept second key :=
  ⟨fun name isName => extended name (kept.isKnown name isName), kept.isPlaced, kept.isEncoded⟩

theorem get?_define (registry : Registry) (schema : Schema) (name : String) :
    (registry.define schema).get? name =
      if name = schema.typeName then some schema else registry.get? name := by
  split
  · rename_i same
    exact same ▸ Table.get?_insert_self registry schema.typeName schema
  · rename_i different
    exact Table.get?_insert_of_ne different registry schema

theorem get?_defineAll {schemas : Registry} (named : Named schemas) (registry : Registry)
    (name : String) :
    (registry.defineAll schemas.values).get? name =
      (schemas.get? name).or (registry.get? name) := by
  have stored := Table.get?_foldl_insert_values id named registry name
  rw [Option.map_id] at stored
  exact stored

theorem putSchemas_eq (store : Store) (schemas : List Schema) :
    store.putSchemas schemas = { store with
      schemas := schemas.foldl (fun stored schema => stored.insert schema.typeName schema.stored)
        store.schemas } := by
  induction schemas generalizing store with
  | nil => rfl
  | cons schema rest ih => exact ih (store.putSchema schema)

theorem get?_schemas_putSchemas {schemas : Registry} (named : Named schemas) (store : Store)
    (name : String) :
    (store.putSchemas schemas.values).schemas.get? name =
      ((schemas.get? name).map Schema.stored).or (store.schemas.get? name) := by
  rw [putSchemas_eq]
  exact Table.get?_foldl_insert_values Schema.stored named store.schemas name

/-! ## Schemas are kept apart -/

theorem records_commit (database : Database) (txn : Transaction) :
    (database.commit txn).store.records = txn.store.records := by
  unfold commit
  rw [putSchemas_eq]

theorem index_commit (database : Database) (txn : Transaction) (order : IndexOrder) :
    (database.commit txn).store.index order = txn.store.index order := by
  unfold commit
  rw [putSchemas_eq]
  cases order with
  | byPath => rfl
  | byValue => rfl

theorem vectors_commit (database : Database) (txn : Transaction) :
    (database.commit txn).store.vectors = txn.store.vectors := by
  unfold commit
  rw [putSchemas_eq]

theorem settings_commit (database : Database) (txn : Transaction) :
    (database.commit txn).store.settings = txn.store.settings := by
  unfold commit
  rw [putSchemas_eq]

/-! ## Records of the stores that a write leads to -/

theorem records_withRecord (database : Database) (store : Store) (pending : PendingRecord)
    (version : Nat) (vector : FeatureVector) :
    (database.withRecord store pending version vector).records =
      store.records.insert pending.key (pending.record database version) := by
  unfold withRecord Store.putVector
  split
  all_goals rfl

theorem records_withoutRecord (database : Database) (store : Store) (key : String)
    (previous : StoredRecord) :
    (database.withoutRecord store key previous).records = store.records.erase key :=
  rfl

/-- Every record of a table is kept. -/
def AllKept (registry : Registry) (records : Table String StoredRecord) : Prop :=
  forall key record, records.get? key = some record -> record.Kept registry key

theorem AllKept.mono {first second : Registry} {records : Table String StoredRecord}
    (extended : Extends first second) (kept : AllKept first records) : AllKept second records :=
  fun key record found => Kept.mono extended (kept key record found)

theorem AllKept.insert {registry : Registry} {records : Table String StoredRecord}
    (kept : AllKept registry records) {key : String} {record : StoredRecord}
    (keptToo : record.Kept registry key) : AllKept registry (records.insert key record) := by
  intro other record' found
  by_cases same : other = key
  · subst same
    rw [Table.get?_insert_self] at found
    cases found
    exact keptToo
  · rw [Table.get?_insert_of_ne same] at found
    exact kept other record' found

theorem AllKept.erase {registry : Registry} {records : Table String StoredRecord}
    (kept : AllKept registry records) (key : String) : AllKept registry (records.erase key) := by
  intro other record found
  by_cases same : other = key
  · subst same
    rw [Table.get?_erase_self] at found
    cases found
  · rw [Table.get?_erase_of_ne same] at found
    exact kept other record found

/-- A record that fits its place is kept once its type is known. -/
theorem kept_record (database : Database) {store : Store} {pending : PendingRecord}
    (fits : pending.Fits store) {registry : Registry}
    (isKnown : ∀ name ∈ pending.typeName, (registry.get? name).isSome) (version : Nat) :
    (pending.record database version).Kept registry pending.key :=
  ⟨isKnown, fits.isPlaced, pending.value, database.config.keepUndefined, rfl⟩

/-- All records of an outcome are kept once its type is known. -/
theorem allKept_outcome {request : Request} {store : Store} {known : Option String}
    (outcome : Outcome database request store known) {registry : Registry}
    (kept : AllKept registry database.store.records)
    (isKnown : ∀ name ∈ known, (registry.get? name).isSome) :
    AllKept registry store.records := by
  cases outcome with
  | unchanged => exact kept
  | stored stores fits version vector =>
      rw [records_withRecord]
      exact kept.insert (kept_record database fits isKnown version)
  | removed isThere =>
      rw [records_withoutRecord]
      exact kept.erase _
  | moved stores fits isThere apart version vector =>
      rw [records_withoutRecord, records_withRecord]
      exact (kept.insert (kept_record database fits isKnown version)).erase _

/-- A write leaves the schemas and the settings of the store alone. -/
theorem others_outcome {request : Request} {store : Store} {known : Option String}
    (outcome : Outcome database request store known) :
    store.schemas = database.store.schemas ∧ store.settings = database.store.settings := by
  have withRecord (store : Store) (pending : PendingRecord) (version : Nat)
      (vector : FeatureVector) :
      (database.withRecord store pending version vector).schemas = store.schemas ∧
        (database.withRecord store pending version vector).settings = store.settings := by
    unfold Database.withRecord Store.putVector
    split
    all_goals exact ⟨rfl, rfl⟩
  cases outcome with
  | unchanged => exact ⟨rfl, rfl⟩
  | stored stores fits version vector => exact withRecord _ _ version vector
  | removed isThere => exact ⟨rfl, rfl⟩
  | moved stores fits isThere apart version vector => exact withRecord _ _ version vector

/-! ## Steps -/

/-- Indexing records anew leaves everything but the indexes alone. -/
theorem reindexed_eq (database : Database) (schema : Schema) :
    ∃ byPath byValue, database.reindexed schema =
      { database.store with byPath, byValue } := by
  have folded (old new : StoredRecord -> TermCounts) (rows : List (String × StoredRecord)) :
      forall store : Store, ∃ byPath byValue,
        rows.foldl (fun store row => store.changeTerms row.1 (old row.2) (new row.2)) store =
          { store with byPath, byValue } := by
    induction rows with
    | nil => exact fun store => ⟨store.byPath, store.byValue, rfl⟩
    | cons row rest ih => exact fun store => ih (store.changeTerms row.1 (old row.2) (new row.2))
  unfold reindexed
  split
  · rename_i old _
    split
    · exact folded (fun record => database.terms old record.value)
        (fun record => database.terms schema record.value) _ database.store
    · exact ⟨database.store.byPath, database.store.byValue, rfl⟩
  · exact ⟨database.store.byPath, database.store.byValue, rfl⟩

theorem extends_define (registry : Registry) (schema : Schema) :
    Extends registry (registry.define schema) := by
  intro name isSome
  rw [get?_define]
  split
  · rfl
  · exact isSome

theorem extends_defineAll {schemas : Registry} (named : Named schemas) (registry : Registry) :
    Extends registry (registry.defineAll schemas.values) := by
  intro name isSome
  rw [get?_defineAll named]
  cases schemas.get? name with
  | none => exact isSome
  | some schema => rfl

/-- The schemas of a transaction go by the names of their types. -/
theorem named_of_steady {store : Store} {known : Option String} {txn : Transaction}
    (steady : txn.Steady database store known) : Named txn.schemas :=
  fun name schema found => (steady.stands name schema found).1

theorem Orderly.commit (orderly : database.Orderly) {request : Request} {txn : Transaction}
    (leads : Write.Leads database request txn) : (database.commit txn).Orderly := by
  rcases leads with ⟨store, known, outcome, steady⟩
  have named := named_of_steady steady
  have others := others_outcome outcome
  have extended := extends_defineAll named database.registry
  have isStore := steady.isStore
  refine ⟨orderly.readsRows, ?_, ?_, ?_, ?_⟩
  · intro setting member
    rw [settings_commit, isStore, others.2]
    exact orderly.settled setting member
  · intro name schema found
    change (database.registry.defineAll txn.schemas.values).get? name = some schema at found
    rw [get?_defineAll named] at found
    cases own : txn.schemas.get? name with
    | none =>
        rw [own] at found
        exact orderly.named name schema found
    | some schema' =>
        rw [own] at found
        cases found
        exact named name _ own
  · intro name
    change (txn.store.putSchemas txn.schemas.values).schemas.get? name =
      ((database.registry.defineAll txn.schemas.values).get? name).map Schema.stored
    rw [get?_schemas_putSchemas named, get?_defineAll named, isStore, others.1]
    cases txn.schemas.get? name with
    | none => exact orderly.alike name
    | some schema => rfl
  · have isKnown : ∀ name ∈ known,
        ((database.registry.defineAll txn.schemas.values).get? name).isSome := by
      intro name isName
      rcases steady.knows name isName with own | before
      · rw [get?_defineAll named]
        rw [Option.isSome_iff_exists] at own
        rcases own with ⟨schema, isOwn⟩
        rw [isOwn]
        rfl
      · exact extended name before
    have kept := allKept_outcome outcome (AllKept.mono extended orderly.kept) isKnown
    intro key record found
    rw [records_commit, isStore] at found
    exact kept key record found

theorem Orderly.withSchema (orderly : database.Orderly) (schema : Schema) :
    (database.withSchema schema).Orderly := by
  rcases reindexed_eq database schema with ⟨byPath, byValue, isStore⟩
  unfold Database.withSchema
  rw [isStore]
  refine ⟨orderly.readsRows, orderly.settled, ?_, ?_, ?_⟩
  · intro name schema' found
    change (database.registry.define schema).get? name = some schema' at found
    rw [get?_define] at found
    split at found
    · rename_i same
      cases found
      exact same.symm
    · exact orderly.named name schema' found
  · intro name
    change (database.store.schemas.insert schema.typeName schema.stored).get? name =
      ((database.registry.define schema).get? name).map Schema.stored
    rw [get?_define]
    split
    · rename_i same
      rw [same, Table.get?_insert_self]
      rfl
    · rename_i different
      rw [Table.get?_insert_of_ne different]
      exact orderly.alike name
  · exact AllKept.mono (extends_define database.registry schema) orderly.kept

/-- A stored schema is the stored form of one that is known. -/
theorem Orderly.known_of_stored (orderly : database.Orderly) {name : String} {schema : Schema}
    (found : database.store.schemas.get? name = some schema) :
    ∃ known, database.registry.get? name = some known ∧ known.stored = schema :=
  Option.map_eq_some_iff.mp ((orderly.alike name).symm.trans found)

/-- The stored schemas go by the names of their types as well. -/
theorem Orderly.named_stored (orderly : database.Orderly) : Named database.store.schemas := by
  intro name schema found
  rcases orderly.known_of_stored found with ⟨known, isKnown, rfl⟩
  exact orderly.named name known isKnown

/-- What is loaded again are the stored schemas. -/
theorem Orderly.get?_reopened (orderly : database.Orderly) {config : Config} {supply : IdSupply}
    {reopened : Database} (opened : Opened config database.store supply reopened)
    (name : String) : reopened.registry.get? name = database.store.schemas.get? name := by
  rw [opened.isRegistry, get?_defineAll orderly.named_stored]
  exact Option.or_none

theorem Orderly.reopened (orderly : database.Orderly) {config : Config} {supply : IdSupply}
    {reopened : Database} (opened : Opened config database.store supply reopened) :
    reopened.Orderly := by
  have loaded := orderly.get?_reopened opened
  have schemas : reopened.store.schemas = database.store.schemas := by
    rw [opened.isStore]
  have records : reopened.store.records = database.store.records := by
    rw [opened.isStore]
  have extended : Extends database.registry reopened.registry := by
    intro name isSome
    rw [loaded, orderly.alike, Option.isSome_map]
    exact isSome
  refine ⟨opened.isConfig ▸ opened.readsRows, opened.isConfig ▸ opened.settled, ?_, ?_, ?_⟩
  · intro name schema found
    rw [loaded] at found
    exact orderly.named_stored name schema found
  · intro name
    rw [loaded, schemas, orderly.alike, Option.map_map]
    exact Option.map_congr fun schema _ => schema.stored_stored.symm
  · intro key record found
    rw [records] at found
    exact Kept.mono extended (orderly.kept key record found)

/-- Every step keeps the order. -/
theorem Orderly.step (orderly : database.Orderly) {request : Request} {later : Database}
    (step : Step database request later) : later.Orderly := by
  cases step with
  | supplied supply => exact ⟨orderly.readsRows, orderly.settled, orderly.named, orderly.alike,
      orderly.kept⟩
  | committed leads => exact orderly.commit leads
  | defined defines => exact orderly.withSchema _
  | vectors vectors => exact ⟨orderly.readsRows, orderly.settled, orderly.named, orderly.alike,
      orderly.kept⟩
  | reopened opened => exact orderly.reopened opened

theorem orderly_opened {config : Config} {supply : IdSupply}
    (accepted : openStore config .empty supply = .ok database) : database.Orderly := by
  have opened := opened_of_openStore accepted
  have isRegistry : database.registry = .empty := opened.isRegistry
  have isStore := opened.isStore
  refine ⟨opened.isConfig ▸ opened.readsRows, opened.isConfig ▸ opened.settled, ?_, ?_, ?_⟩
  · rw [isRegistry]
    exact nofun
  · rw [isRegistry, isStore]
    exact fun _ => rfl
  · rw [isStore]
    exact nofun

/-- The step that a request to an orderly database makes. -/
theorem Orderly.step_after (orderly : database.Orderly) (request : Request) :
    Step database request (database.after request) :=
  Database.step_after orderly.named
    orderly.isPlaced request

theorem orderly_of_reachable {allowed : Database -> Request -> Prop}
    (reachable : Reachable allowed database) : database.Orderly := by
  induction reachable with
  | opened accepted => exact orderly_opened accepted
  | step _ _ ih => exact ih.step (ih.step_after _)

end Database

end RecordIndex
