import RecordIndex.Proofs.Database.Orderly
import RecordIndex.Proofs.Value.Shape

namespace RecordIndex

/-!
# Where records come from

What a request stores is a value that it is given or makes of a record that is
there, but for the identity.  Every record of a reachable database was once
stored by a request and has been kept ever since.  So what holds of a record
when it is stored, and goes on to hold while other requests are made, holds of
all records.
-/

/-! ## What a request brings -/

namespace Request

/-- The request stores this value, with or without an identity of its own. -/
def Brings (database : Database) (request : Request) (value : Value) : Prop :=
  match request with
  | .put _ given _ => value = given
  | .patch key changes _ _ => ∃ record, database.store.records.get? key = some record ∧
      value = changes.mergeOnto record.value
  | .copy key _ _ => ∃ record, database.store.records.get? key = some record ∧
      value = record.value
  | .move key _ _ => ∃ record, database.store.records.get? key = some record ∧
      value = record.value
  | _ => False

end Request

namespace Write

open Transaction

variable {database : Database} {kind : Value -> Prop}
  (sets : forall value name text, kind value -> kind (value.setField name (.string text)))

include sets

theorem kind_bindIdentity {schema : Schema} {key : String} {value bound : Value}
    (isKind : kind value) (isBound : schema.bindIdentity key value = .ok bound) : kind bound := by
  unfold Schema.bindIdentity at isBound
  split at isBound
  · split at isBound
    · cases isBound
      exact isKind
    · cases isBound
  · cases isBound
  · cases isBound
    exact sets value schema.idProperty key isKind

theorem ensures_bindIdentity_kind {value : Value} (isKind : kind value) (key : String)
    (typeName : Option String) {before : Transaction -> Prop} :
    Ensures (bindIdentity database key typeName value) before fun bound _ => kind bound := by
  unfold bindIdentity
  split
  · exact Ensures.pure fun _ _ => isKind
  · refine Ensures.anything.bind fun schema => ?_
    exact Ensures.lift.imp fun _ _ ensured =>
      kind_bindIdentity sets isKind ensured.2

theorem ensures_pendingPut_kind (key : Option String) {value : Value} (options : PutOptions)
    (isKind : kind value) :
    Ensures (pendingPut database key value options) (Steady database database.store none)
      fun result _ => ∀ pending ∈ result, kind pending.value := by
  unfold pendingPut
  refine Ensures.anything.bind fun key => Ensures.anything.bind fun previous => ?_
  refine Ensures.anything.bind fun _ => ?_
  refine (ensures_bindIdentity_kind sets isKind key _).bind fun bound => ?_
  split
  · refine Ensures.pure fun _ isBound pending isPending => ?_
    cases isPending
    exact isBound
  · exact Ensures.pure fun _ _ => nofun

theorem ensures_pendingPatch_kind (key : String) {changes : Value}
    (version ifVersion : Option Nat) (isKind : ∀ record ∈ database.store.records.get? key,
      kind (changes.mergeOnto record.value)) :
    Ensures (pendingPatch database key changes version ifVersion)
      (Steady database database.store none)
      fun result _ => ∀ pending ∈ result, kind pending.value := by
  refine ensures_ofVersion key ifVersion (fun _ _ => nofun) fun previous isPrevious _ => ?_
  refine (ensures_bindIdentity_kind sets (isKind previous isPrevious) key _).bind ?_
  refine fun bound => Ensures.pure fun _ isBound pending isPending => ?_
  cases isPending
  exact isBound

theorem ensures_pendingCopy_kind (key : String) (destination : Option String)
    (options : CopyOptions) (isKind : ∀ record ∈ database.store.records.get? key,
      kind record.value) :
    Ensures (Option.map Prod.fst <$> pendingCopy database key destination options)
      (Steady database database.store none)
      fun result _ => ∀ pending ∈ result, kind pending.value := by
  have isCopy {copied : Option (PendingRecord × StoredRecord)}
      (isKind : ∀ copy ∈ copied, kind copy.1.value) :
      ∀ pending ∈ copied.map Prod.fst, kind pending.value := by
    intro pending isPending
    rcases Option.map_eq_some_iff.mp isPending with ⟨copy, isCopied, rfl⟩
    exact isKind copy isCopied
  refine Ensures.map (Ensures.weaken ?_ (fun _ => id) fun _ _ => isCopy)
  refine ensures_ofVersion key options.ifVersion (fun _ _ => nofun) fun source isSource _ => ?_
  have isKind := isKind source isSource
  refine Ensures.anything.bind fun target => Ensures.anything.bind fun _ => ?_
  refine Ensures.anything.bind fun previous => Ensures.anything.bind fun _ => ?_
  have rebinds : Ensures (rebindIdentity database target source.typeName source.value)
      (fun _ => True) fun bound _ => kind bound := by
    unfold rebindIdentity
    split
    · exact Ensures.pure fun _ _ => isKind
    · refine Ensures.anything.bind fun schema => ?_
      exact Ensures.pure fun _ _ => sets source.value schema.idProperty target isKind
  refine rebinds.bind fun bound => Ensures.pure fun _ isBound copy isCopied => ?_
  cases isCopied
  exact isBound

end Write

/-- What is stored is of every kind that the request brings and that does not
depend on the identity. -/
theorem Request.kind_of_stores {database : Database} {request : Request} {kind : Value -> Prop}
    (sets : forall value name text, kind value -> kind (value.setField name (.string text)))
    (brings : forall value, request.Brings database value -> kind value)
    {pending : PendingRecord} (stores : request.Stores database pending) : kind pending.value := by
  rcases stores with ⟨final, ran⟩
  have steady := database.steady_start
  have isSource {key : String} (isBrought : forall record,
      database.store.records.get? key = some record -> request.Brings database record.value) :
      ∀ record ∈ database.store.records.get? key, kind record.value :=
    fun record isRecord => brings _ (isBrought record isRecord)
  cases request with
  | put key value options =>
      exact Write.ensures_pendingPut_kind sets key options (brings value rfl) _ steady _ _ ran
        pending rfl
  | patch key changes version ifVersion =>
      have isKind : ∀ record ∈ database.store.records.get? key,
          kind (changes.mergeOnto record.value) :=
        fun record isRecord => brings _ ⟨record, isRecord, rfl⟩
      exact Write.ensures_pendingPatch_kind sets key version ifVersion isKind _ steady _ _ ran
        pending rfl
  | copy key destination options =>
      have isKind := isSource fun record isRecord => ⟨record, isRecord, rfl⟩
      exact Write.ensures_pendingCopy_kind sets key destination options isKind _ steady _ _ ran
        pending rfl
  | move key destination options =>
      have isKind := isSource fun record isRecord => ⟨record, isRecord, rfl⟩
      exact Write.ensures_pendingCopy_kind sets key destination options isKind _ steady _ _ ran
        pending rfl
  | _ => cases ran

/-! ## What a database comes to -/

namespace Database

variable {database : Database} {request : Request}

/-- A record of an outcome was there before or has just been stored. -/
theorem record_of_outcome {store : Store} {known : Option String}
    (outcome : Outcome database request store known) {key : String} {record : StoredRecord}
    (found : store.records.get? key = some record) :
    database.store.records.get? key = some record ∨
      ∃ pending version, request.Stores database pending ∧ pending.key = key ∧
        record = pending.record database version := by
  have withRecord {pending : PendingRecord} (stores : request.Stores database pending)
      {version : Nat} (found : (database.store.records.insert pending.key
        (pending.record database version)).get? key = some record) :
      database.store.records.get? key = some record ∨
        ∃ pending version, request.Stores database pending ∧ pending.key = key ∧
          record = pending.record database version := by
    by_cases same : key = pending.key
    · subst same
      rw [Table.get?_insert_self] at found
      exact .inr ⟨pending, version, stores, rfl, (Option.some.inj found).symm⟩
    · rw [Table.get?_insert_of_ne same] at found
      exact .inl found
  have notErased {records : Table String StoredRecord} {erased : String}
      (found : (records.erase erased).get? key = some record) :
      records.get? key = some record := by
    by_cases same : key = erased
    · subst same
      rw [Table.get?_erase_self] at found
      cases found
    · rw [Table.get?_erase_of_ne same] at found
      exact found
  cases outcome with
  | unchanged => exact .inl found
  | stored stores fits version vector =>
      rw [records_withRecord] at found
      exact withRecord stores found
  | removed isThere =>
      rw [records_withoutRecord] at found
      exact .inl (notErased found)
  | moved stores fits isThere apart version vector =>
      rw [records_withoutRecord, records_withRecord] at found
      exact withRecord stores (notErased found)

/-- A record behind a request was there before or has been stored by it. -/
theorem record_of_step {later : Database} (step : Step database request later) {key : String}
    {record : StoredRecord} (found : later.store.records.get? key = some record) :
    database.store.records.get? key = some record ∨
      ∃ pending version, request.Stores database pending ∧ pending.key = key ∧
        record = pending.record database version := by
  cases step with
  | supplied supply => exact .inl found
  | committed leads =>
      rcases leads with ⟨store, known, outcome, steady⟩
      rw [records_commit, steady.isStore] at found
      exact record_of_outcome outcome found
  | @defined schema defines =>
      rcases reindexed_eq database schema with ⟨byPath, byValue, isStore⟩
      unfold withSchema at found
      rw [isStore] at found
      exact .inl found
  | vectors vectors => exact .inl found
  | reopened opened =>
      rw [opened.isStore] at found
      exact .inl found

/-- The configuration stays what it is until the database is opened again. -/
theorem config_after (database : Database) (request : Request) :
    (database.after request).config = database.config ∨
      ∃ config supply, request = .reopen config supply ∧
        (database.after request).config = config := by
  have ofWrite {Result : Type} (action : Write Result) :
      (database.write action).2.config = database.config := by
    unfold write
    split
    all_goals rfl
  cases request with
  | reopen config supply =>
      unfold after
      dsimp only
      split
      · rename_i reopened accepted
        exact .inr ⟨config, supply, rfl, (opened_of_openStore accepted).isConfig⟩
      · exact .inl rfl
  | put key value options => exact .inl (ofWrite _)
  | patch key changes version ifVersion => exact .inl (ofWrite _)
  | remove key ifVersion => exact .inl (ofWrite _)
  | copy key destination options => exact .inl (ofWrite _)
  | move key destination options =>
      change (database.move key destination options).2.config = _ ∨ _
      unfold move
      split
      · exact .inl rfl
      · exact .inl (ofWrite _)
  | defineSchema typeName options => exact .inl (ofWrite _)
  | getSchema typeName create =>
      change (database.getSchema typeName create).2.config = _ ∨ _
      unfold getSchema
      split
      · exact .inl rfl
      · split
        · exact .inl rfl
        · exact .inl rfl
  | reindexVectors typeName =>
      change (database.reindexVectors typeName).2.config = _ ∨ _
      unfold reindexVectors
      split
      all_goals exact .inl rfl
  | newGenerator nth => exact .inl rfl

/-- What holds of every record when it is stored, given that it holds of all
records that are there, and goes on to hold of it after every request, holds of
every record of a reachable database. -/
theorem Reachable.forall_records {allowed : Database -> Request -> Prop}
    (holds : Database -> StoredRecord -> Prop)
    (stored : forall {database request pending}, allowed database request ->
      database.Orderly ->
      (forall key record, database.store.records.get? key = some record ->
        holds database record) ->
      request.Stores database pending -> forall version,
        holds database (pending.record database version))
    (goesOn : forall {database request record}, allowed database request ->
      holds database record -> holds (database.after request) record)
    (reachable : Reachable allowed database) :
    forall key record, database.store.records.get? key = some record -> holds database record := by
  induction reachable with
  | opened accepted =>
      intro key record found
      rw [(opened_of_openStore accepted).isStore] at found
      cases found
  | step before isAllowed ih =>
      rename_i request
      intro key record found
      have orderly := orderly_of_reachable before
      apply goesOn isAllowed
      rcases record_of_step (orderly.step_after request) found with older | ⟨pending, version,
        stores, _, rfl⟩
      · exact ih key record older
      · exact stored isAllowed orderly ih stores version

end Database

/-! ## Well-formed records -/

/-- What the request is given to store is well-formed. -/
def Request.WellFormed : Request -> Prop
  | .put _ value _ => value.WellFormed
  | .patch _ changes _ _ => changes.WellFormed
  | _ => True

theorem Request.WellFormed.of_brings {database : Database} {request : Request}
    (wellFormed : request.WellFormed) (records : forall key record,
      database.store.records.get? key = some record -> record.value.WellFormed) {value : Value}
    (brings : request.Brings database value) : value.WellFormed := by
  cases request with
  | put key given options =>
      cases brings
      exact wellFormed
  | patch key changes version ifVersion =>
      rcases brings with ⟨record, isRecord, rfl⟩
      exact Value.WellFormed.mergeOnto wellFormed (records key record isRecord)
  | copy key destination options | move key destination options =>
      rcases brings with ⟨record, isRecord, rfl⟩
      exact records key record isRecord
  | _ => cases brings

/-- When no request brings anything malformed, all records are well-formed. -/
theorem Database.wellFormed_of_reachable {database : Database}
    (reachable : Reachable (fun _ request => request.WellFormed) database) :
    forall key record, database.store.records.get? key = some record ->
      record.value.WellFormed := by
  refine Reachable.forall_records (fun _ record => record.value.WellFormed) ?_ (fun _ => id)
    reachable
  intro database request pending wellFormed _ records stores version
  have sets (value : Value) (name text : String) (isWellFormed : value.WellFormed) :
      (value.setField name (.string text)).WellFormed := isWellFormed.setField name trivial
  exact (Request.kind_of_stores sets (fun value => wellFormed.of_brings records)
    stores).decode_encode _

end RecordIndex
