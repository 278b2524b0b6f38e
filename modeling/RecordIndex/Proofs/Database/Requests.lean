import RecordIndex.Database.Schemas
import RecordIndex.Proofs.Database.Opening
import RecordIndex.Proofs.Database.Writes

namespace RecordIndex

/-!
# Requests

The requests that a database answers, one after another.  Each of them may
succeed, be passed over or fail, and leads to a database in any case.  A
database is reachable when it was opened on nothing and then answered requests,
all of them such as are allowed.
-/

/-- A request to an open database. -/
inductive Request where
  /-- Close the database and open it again. -/
  | reopen (config : Config) (supply : IdSupply)
  | put (key : Option String) (value : Value) (options : PutOptions)
  | patch (key : String) (changes : Value) (version ifVersion : Option Nat)
  | remove (key : String) (ifVersion : Option Nat)
  | copy (key : String) (destination : Option String) (options : CopyOptions)
  | move (key : String) (destination : Option String) (options : CopyOptions)
  | defineSchema (typeName : String) (options : SchemaOptions)
  | getSchema (typeName : String) (create : Bool)
  | reindexVectors (typeName : String)
  | newGenerator (nth : Nat -> String)

namespace Database

/-- The database behind a request.  A database that may not be opened again
stays open as it is. -/
def after (database : Database) (request : Request) : Database :=
  match request with
  | .reopen config supply =>
      match openStore config database.store supply with
      | .ok reopened => reopened
      | .error _ => database
  | .put key value options => (database.put key value options).2
  | .patch key changes version ifVersion => (database.patch key changes version ifVersion).2
  | .remove key ifVersion => (database.remove key ifVersion).2
  | .copy key destination options => (database.copy key destination options).2
  | .move key destination options => (database.move key destination options).2
  | .defineSchema typeName options => (database.defineSchema typeName options).2
  | .getSchema typeName create => (database.getSchema typeName create).2
  | .reindexVectors typeName => (database.reindexVectors typeName).2
  | .newGenerator nth => (database.newGenerator nth).2

/-- The databases that requests lead to, when only allowed ones are made. -/
inductive Reachable (allowed : Database -> Request -> Prop) : Database -> Prop where
  | opened {config : Config} {supply : IdSupply} {database : Database}
      (accepted : openStore config .empty supply = .ok database) : Reachable allowed database
  | step {database : Database} {request : Request} (reachable : Reachable allowed database)
      (isAllowed : allowed database request) : Reachable allowed (database.after request)

end Database

namespace Request

/-- The action that finds out what a request stores, if it stores anything. -/
def pending (database : Database) (request : Request) : Write (Option PendingRecord) :=
  match request with
  | .put key value options => Write.pendingPut database key value options
  | .patch key changes version ifVersion =>
      Write.pendingPatch database key changes version ifVersion
  | .copy key destination options =>
      Option.map Prod.fst <$> Write.pendingCopy database key destination options
  | .move key destination options =>
      Option.map Prod.fst <$> Write.pendingCopy database key destination options
  | _ => return none

/-- The request is about to store this record. -/
def Stores (request : Request) (database : Database) (pending : PendingRecord) : Prop :=
  ∃ txn, (request.pending database).run database.start = (.ok (some pending), txn)

/-- The key of the copy is drawn from a generator. -/
def drawsKey : Request -> Bool
  | .copy _ none _ => true
  | .move _ none _ => true
  | _ => false

end Request

namespace Request

/-- A key that is drawn for a copy is not in use. -/
def DrawsFresh (request : Request) (database : Database) : Prop :=
  request.drawsKey = true -> forall pending, request.Stores database pending ->
    database.store.records.get? pending.key = none

end Request

/-! ## What a write leads to -/

namespace Database

/-- What is there behind a value that is put. -/
theorem after_put {database : Database} {key : Option String} {value : Value}
    {options : PutOptions} {pending : PendingRecord} {middle final : Transaction}
    (found : (Write.pendingPut database key value options).run database.start =
      (.ok (some pending), middle))
    (stored : (Write.putRecord database pending).run middle = (.ok (), final)) :
    database.after (.put key value options) =
      { database with
        store := final.store.putSchemas final.schemas.values
        registry := database.registry.defineAll final.schemas.values
        supply := final.supply } := by
  have runs : (Write.put database key value options).run database.start =
      (.ok (some pending.key), final) := by
    unfold Write.put
    rw [Write.run_bind_ok found]
    exact Write.run_bind_ok stored
  change (database.write (Write.put database key value options)).2 = _
  unfold write
  rw [show (Write.put database key value options).run ⟨database.store, .empty, database.supply⟩ =
    _ from runs]

end Database

/-- The store that a writing request may leave behind, and a type that has a
schema from then on. -/
inductive Outcome (database : Database) (request : Request) : Store -> Option String -> Prop where
  | unchanged : Outcome database request database.store none
  | stored {pending : PendingRecord} (stores : request.Stores database pending)
      (fits : pending.Fits database.store) (version : Nat) (vector : FeatureVector) :
      Outcome database request (database.withRecord database.store pending version vector)
        pending.typeName
  | removed {key : String} {previous : StoredRecord}
      (isThere : database.store.records.get? key = some previous) :
      Outcome database request (database.withoutRecord database.store key previous) none
  | moved {pending : PendingRecord} {key : String} {source : StoredRecord}
      (stores : request.Stores database pending) (fits : pending.Fits database.store)
      (isThere : database.store.records.get? key = some source)
      (apart : request.DrawsFresh database -> pending.key ≠ key)
      (version : Nat) (vector : FeatureVector) :
      Outcome database request (database.withoutRecord
        (database.withRecord database.store pending version vector) key source) pending.typeName

namespace Write

open Database Transaction

variable {database : Database}

/-- From the start of a transaction, the run of an action is known as well. -/
theorem Ensures.fromStart {Result : Type} {action : Write Result}
    {after : Result -> Transaction -> Prop}
    (ensures : Ensures action (Steady database database.store none) after) :
    Ensures action (fun txn => txn = database.start) fun result txn =>
      after result txn ∧ ∃ final, action.run database.start = (.ok result, final) :=
  (ensures.ran database.steady_start).imp fun _ txn ensured => ⟨ensured.1, txn, ensured.2⟩

/-! ### The ways to store and to remove

Each write is walked through once.  What a request does to the store, to
versions and to vectors is read off what its write has come to. -/

/-- What is found out to be stored is what the request stores. -/
theorem stores_of_finds {request : Request} {finds : Write (Option PendingRecord)}
    (isPending : request.pending database = finds) {pending : PendingRecord}
    (runs : ∃ middle, finds.run database.start = (.ok (some pending), middle)) :
    request.Stores database pending := by
  subst isPending
  exact runs

/-- What a write has come to that stores what it has found out to store, and
what is known of that. -/
inductive HasStored {Result : Type} (database : Database) (finds : Write (Option PendingRecord))
    (isKnown : PendingRecord -> Prop) (nothing : Result) (something : PendingRecord -> Result) :
    Result -> Transaction -> Prop where
  | nothing {txn : Transaction} (steady : txn.Steady database database.store none) :
      HasStored database finds isKnown nothing something nothing txn
  | stored {pending : PendingRecord} {txn : Transaction}
      (runs : ∃ middle, finds.run database.start = (.ok (some pending), middle))
      (known : isKnown pending)
      (steady : txn.Steady database (database.withRecord database.store pending
        pending.nextVersion (txn.vectorOf database pending.typeName pending.value))
        pending.typeName) :
      HasStored database finds isKnown nothing something (something pending) txn

theorem ensures_hasStored {Result : Type} (named : Named database.registry)
    {finds : Write (Option PendingRecord)} {isKnown : PendingRecord -> Prop}
    (ensures : Ensures finds (Steady database database.store none) fun result txn =>
      txn.Steady database database.store none ∧ ∀ pending ∈ result, isKnown pending)
    (nothing : Result) (something : PendingRecord -> Result) :
    Ensures (do
      match ← finds with
      | none => return nothing
      | some pending =>
          putRecord database pending
          return something pending) (fun txn => txn = database.start)
      (HasStored database finds isKnown nothing something) := by
  refine ensures.fromStart.bind fun result => ?_
  refine Ensures.assume fun runs => Ensures.assume fun known => ?_
  split
  · exact Ensures.pure fun txn steady => .nothing steady
  · rename_i pending
    exact (ensures_putRecord named pending).bind fun _ => Ensures.pure fun txn steady =>
      .stored runs (known pending rfl) steady

theorem ensures_hasStored_put (named : Named database.registry) (key : Option String)
    (value : Value) (options : PutOptions) :
    Ensures (put database key value options) (fun txn => txn = database.start)
      (HasStored database (pendingPut database key value options)
        (fun pending => pending.Fits database.store) none fun pending => some pending.key) :=
  ensures_hasStored named (ensures_pendingPut named key value options) none
    fun pending => some pending.key

theorem ensures_hasStored_patch (named : Named database.registry) (key : String) (changes : Value)
    (version ifVersion : Option Nat)
    (isPlaced : ∀ record ∈ database.store.records.get? key,
      checkPlace key record.typeName = .ok ()) :
    Ensures (patch database key changes version ifVersion) (fun txn => txn = database.start)
      (HasStored database (pendingPatch database key changes version ifVersion)
        (fun pending => pending.Fits database.store ∧ pending.key = key) false fun _ => true) :=
  ensures_hasStored named (ensures_pendingPatch named key changes version ifVersion isPlaced) false
    fun _ => true

/-- The copy has been stored, and its source is known. -/
structure Copies (database : Database) (key : String) (destination : Option String)
    (options : CopyOptions) (pending : PendingRecord) (source : StoredRecord) (txn : Transaction) :
    Prop where
  runs : ∃ middle, (pendingCopy database key destination options).run database.start =
    (.ok (some (pending, source)), middle)
  fits : pending.Fits database.store
  isThere : database.store.records.get? key = some source
  isTarget : ∀ chosen ∈ destination, pending.key = chosen
  steady : txn.Steady database (database.withRecord database.store pending pending.nextVersion
    (txn.vectorOf database pending.typeName pending.value)) pending.typeName

/-- What a copy has come to. -/
inductive HasCopied (database : Database) (key : String) (destination : Option String)
    (options : CopyOptions) : Option (String × StoredRecord) -> Transaction -> Prop where
  | nothing {txn : Transaction} (steady : txn.Steady database database.store none) :
      HasCopied database key destination options none txn
  | copied {pending : PendingRecord} {source : StoredRecord} {txn : Transaction}
      (copies : Copies database key destination options pending source txn) :
      HasCopied database key destination options (some (pending.key, source)) txn

theorem ensures_copyRecord (named : Named database.registry) (key : String)
    (destination : Option String) (options : CopyOptions) :
    Ensures (copyRecord database key destination options) (fun txn => txn = database.start)
      (HasCopied database key destination options) := by
  unfold copyRecord
  refine (ensures_pendingCopy named key destination options).fromStart.bind fun copied => ?_
  refine Ensures.assume fun runs => Ensures.assume fun isCopied => ?_
  split
  · exact Ensures.pure fun txn steady => .nothing steady
  · rename_i pending source
    rcases isCopied (pending, source) rfl with ⟨fits, isThere, isTarget⟩
    refine (ensures_putRecord named pending).bind fun _ => Ensures.pure fun txn steady => ?_
    exact .copied ⟨runs, fits, isThere, isTarget, steady⟩

/-- What a move has come to: the copy has been stored, and the source removed
behind it. -/
inductive HasMoved (database : Database) (key : String) (destination : Option String)
    (options : CopyOptions) : Option String -> Transaction -> Prop where
  | nothing {txn : Transaction} (steady : txn.Steady database database.store none) :
      HasMoved database key destination options none txn
  | moved {pending : PendingRecord} {source : StoredRecord} {between txn : Transaction}
      (copies : Copies database key destination options pending source between)
      (removes : (removeRecord database key source).run between = (.ok (), txn))
      (steady : txn.Steady database (database.withoutRecord (database.withRecord database.store
        pending pending.nextVersion (between.vectorOf database pending.typeName pending.value))
        key source) pending.typeName) :
      HasMoved database key destination options (some pending.key) txn

theorem ensures_hasMoved (named : Named database.registry) (key : String)
    (destination : Option String) (options : CopyOptions) :
    Ensures (move database key destination options) (fun txn => txn = database.start)
      (HasMoved database key destination options) := by
  unfold move
  refine (ensures_copyRecord named key destination options).bind fun result between copied => ?_
  cases copied with
  | nothing steady => exact Ensures.pure (fun txn same => same ▸ .nothing steady) between rfl
  | @copied pending source _ copies =>
      have removes := (ensures_removeRecord named key source).ran copies.steady
      have moves := removes.bind fun _ => Ensures.pure fun txn left =>
        HasMoved.moved copies left.2 left.1
      exact moves between rfl

/-- The transaction leaves one of the stores that the request may lead to. -/
def Leads (database : Database) (request : Request) (txn : Transaction) : Prop :=
  ∃ store known, Outcome database request store known ∧ txn.Steady database store known

theorem leads_unchanged {request : Request} {txn : Transaction}
    (steady : txn.Steady database database.store none) : Leads database request txn :=
  ⟨database.store, none, .unchanged, steady⟩

theorem HasStored.leads {Result : Type} {request : Request} {finds : Write (Option PendingRecord)}
    {isKnown : PendingRecord -> Prop} {nothing result : Result}
    {something : PendingRecord -> Result} {txn : Transaction}
    (stored : HasStored database finds isKnown nothing something result txn)
    (isPending : request.pending database = finds)
    (fitsOf : forall pending, isKnown pending -> pending.Fits database.store) :
    Leads database request txn := by
  cases stored with
  | nothing steady => exact leads_unchanged steady
  | stored runs known steady =>
      exact ⟨_, _, .stored (stores_of_finds isPending runs) (fitsOf _ known) _ _, steady⟩

theorem ensures_put (named : Named database.registry) (key : Option String) (value : Value)
    (options : PutOptions) :
    Ensures (put database key value options) (fun txn => txn = database.start)
      fun _ txn => Leads database (.put key value options) txn :=
  (ensures_hasStored_put named key value options).imp fun _ _ stored =>
    stored.leads rfl fun _ => id

theorem ensures_patch (named : Named database.registry) (key : String) (changes : Value)
    (version ifVersion : Option Nat)
    (isPlaced : ∀ record ∈ database.store.records.get? key,
      checkPlace key record.typeName = .ok ()) :
    Ensures (patch database key changes version ifVersion) (fun txn => txn = database.start)
      fun _ txn => Leads database (.patch key changes version ifVersion) txn :=
  (ensures_hasStored_patch named key changes version ifVersion isPlaced).imp fun _ _ stored =>
    stored.leads rfl fun _ => And.left

theorem ensures_remove (named : Named database.registry) (key : String)
    (ifVersion : Option Nat) :
    Ensures (remove database key ifVersion) (fun txn => txn = database.start)
      fun _ txn => Leads database (.remove key ifVersion) txn := by
  refine Ensures.ofSteady (ensures_ofVersion key ifVersion
    (fun txn steady => leads_unchanged steady) fun previous isPrevious _ => ?_)
  refine (ensures_removeRecord named key previous).bind fun _ => Ensures.pure fun txn steady => ?_
  exact ⟨_, _, .removed isPrevious, steady⟩

/-- The copy is what the request stores. -/
theorem Copies.stores {request : Request} {key : String} {destination : Option String}
    {options : CopyOptions} {pending : PendingRecord} {source : StoredRecord} {txn : Transaction}
    (copies : Copies database key destination options pending source txn)
    (isPending : request.pending database =
      Option.map Prod.fst <$> pendingCopy database key destination options) :
    request.Stores database pending := by
  rcases copies.runs with ⟨middle, runs⟩
  refine stores_of_finds isPending ⟨middle, ?_⟩
  rw [← bind_pure_comp, run_bind_ok runs]
  rfl

theorem ensures_copy (named : Named database.registry) (key : String)
    (destination : Option String) (options : CopyOptions) :
    Ensures (copy database key destination options) (fun txn => txn = database.start)
      fun _ txn => Leads database (.copy key destination options) txn := by
  unfold copy
  refine (ensures_copyRecord named key destination options).bind fun result => ?_
  refine Ensures.pure fun txn copied => ?_
  cases copied with
  | nothing steady => exact leads_unchanged steady
  | copied copies => exact ⟨_, _, .stored (copies.stores rfl) copies.fits _ _, copies.steady⟩

/-- A move leads away from the source, unless the drawn key is that of the
source. -/
theorem ensures_move (named : Named database.registry) (key : String)
    (destination : Option String) (options : CopyOptions) (elsewhere : destination ≠ some key) :
    Ensures (move database key destination options) (fun txn => txn = database.start)
      fun _ txn => Leads database (.move key destination options) txn := by
  refine (ensures_hasMoved named key destination options).imp ?_
  intro result txn moved
  cases moved with
  | nothing steady => exact leads_unchanged steady
  | @moved pending source _ _ copies _ steady =>
      have stores : (Request.move key destination options).Stores database pending :=
        copies.stores rfl
      have apart : (Request.move key destination options).DrawsFresh database ->
          pending.key ≠ key := by
        intro fresh same
        cases destination with
        | none =>
            have free := fresh rfl pending stores
            rw [same, copies.isThere] at free
            cases free
        | some chosen => exact elsewhere (by rw [← copies.isTarget chosen rfl, same])
      exact ⟨_, _, .moved stores copies.fits copies.isThere apart _ _, steady⟩

end Write

/-! ## What a request leads to -/

namespace Database

open Transaction

/-- The database behind a transaction that succeeded. -/
def commit (database : Database) (txn : Transaction) : Database :=
  { database with
    store := txn.store.putSchemas txn.schemas.values
    registry := database.registry.defineAll txn.schemas.values
    supply := txn.supply }

/-- The store with the records of a type indexed under its new schema, if that
indexes other paths than the old one. -/
def reindexed (database : Database) (schema : Schema) : Store :=
  match database.registry.get? schema.typeName with
  | some old =>
      if old.indexedPaths ≠ schema.indexedPaths then
        (database.store.recordsOfType schema.typeName).foldl (fun store row =>
          store.changeTerms row.1 (database.terms old row.2.value)
            (database.terms schema row.2.value)) database.store
      else database.store
  | none => database.store

/-- The database with a schema in place of the one that its type had. -/
def withSchema (database : Database) (schema : Schema) : Database :=
  { database with
    store := (database.reindexed schema).putSchema schema
    registry := database.registry.define schema }

/-- The request makes this the schema of its type. -/
def Defines (database : Database) (schema : Schema) : Request -> Prop
  | .defineSchema typeName options => schema = database.registry.resolve typeName options
  | .getSchema typeName _ =>
      database.registry.get? typeName = none ∧ schema = .ofType typeName
  | _ => False

/-- What a request comes to. -/
inductive Step (database : Database) (request : Request) : Database -> Prop where
  /-- At most some names were drawn. -/
  | supplied (supply : IdSupply) : Step database request { database with supply }
  | committed {txn : Transaction} (leads : Write.Leads database request txn) :
      Step database request (database.commit txn)
  | defined {schema : Schema} (defines : database.Defines schema request) :
      Step database request (database.withSchema schema)
  | vectors (vectors : Table String FeatureVector) :
      Step database request { database with store := { database.store with vectors } }
  | reopened {config : Config} {supply : IdSupply} {reopened : Database}
      (opened : Opened config database.store supply reopened) : Step database request reopened

variable {database : Database} {request : Request}

theorem step_unchanged : Step database request database :=
  .supplied database.supply

/-- An action that leads somewhere wherever it succeeds makes a step. -/
theorem step_of_write {Result : Type} {action : Write Result}
    (leads : Write.Ensures action (fun txn => txn = database.start)
      fun _ txn => Write.Leads database request txn) :
    Step database request (database.write action).2 := by
  have isStart : (⟨database.store, .empty, database.supply⟩ : Transaction) = database.start := rfl
  unfold write
  rw [isStart]
  cases ran : action.run database.start with
  | mk outcome txn =>
      cases outcome with
      | error cause => exact .supplied txn.supply
      | ok result => exact .committed (leads database.start rfl result txn ran)

theorem write_defineSchema (database : Database) (schema : Schema) :
    (database.write (Write.defineSchema database schema)).2 = database.withSchema schema := by
  unfold withSchema reindexed write Write.defineSchema
  cases isOld : database.registry.get? schema.typeName with
  | none => rfl
  | some old =>
      by_cases changed : old.indexedPaths ≠ schema.indexedPaths
      · simp only [if_pos changed]
        rfl
      · simp only [if_neg changed]
        rfl

theorem putVectors_eq (store : Store) (vectorOf : StoredRecord -> FeatureVector)
    (rows : List (String × StoredRecord)) :
    ∃ vectors, rows.foldl (fun store row => store.putVector row.1 (vectorOf row.2)) store =
      { store with vectors } := by
  induction rows generalizing store with
  | nil => exact ⟨store.vectors, rfl⟩
  | cons row rest ih =>
      rcases ih (store.putVector row.1 (vectorOf row.2)) with ⟨vectors, folded⟩
      refine ⟨vectors, ?_⟩
      rw [List.foldl_cons, folded]
      unfold Store.putVector
      split
      all_goals rfl

/-- Every request makes a step. -/
theorem step_after (named : Named database.registry)
    (isPlaced : forall key, ∀ record ∈ database.store.records.get? key,
      Write.checkPlace key record.typeName = .ok ()) (request : Request) :
    Step database request (database.after request) := by
  cases request with
  | reopen config supply =>
      unfold after
      dsimp only
      split
      · rename_i reopened accepted
        exact .reopened (opened_of_openStore accepted)
      · exact step_unchanged
  | put key value options => exact step_of_write (Write.ensures_put named key value options)
  | patch key changes version ifVersion =>
      exact step_of_write
        (Write.ensures_patch named key changes version ifVersion (isPlaced key))
  | remove key ifVersion => exact step_of_write (Write.ensures_remove named key ifVersion)
  | copy key destination options =>
      exact step_of_write (Write.ensures_copy named key destination options)
  | move key destination options =>
      change Step database _ (database.move key destination options).2
      unfold move
      split
      · exact step_unchanged
      · rename_i elsewhere
        exact step_of_write (Write.ensures_move named key destination options elsewhere)
  | defineSchema typeName options =>
      have defined := write_defineSchema database
        (database.registry.resolve typeName options)
      have behind : database.after (.defineSchema typeName options) = (database.write
          (Write.defineSchema database (database.registry.resolve typeName options))).2 := rfl
      rw [behind, defined]
      exact .defined rfl
  | getSchema typeName create =>
      change Step database _ (database.getSchema typeName create).2
      unfold getSchema
      split
      · exact step_unchanged
      · rename_i unknown
        split
        · have added : database.withSchema (.ofType typeName) =
              { database with
                registry := database.registry.define (.ofType typeName)
                store := database.store.putSchema (.ofType typeName) } := by
            unfold withSchema reindexed
            have isName : (Schema.ofType typeName).typeName = typeName := rfl
            rw [isName, unknown]
          unfold Registry.getOrCreate
          rw [unknown]
          dsimp only
          rw [← added]
          exact .defined ⟨unknown, rfl⟩
        · exact step_unchanged
  | reindexVectors typeName =>
      change Step database _ (database.reindexVectors typeName).2
      unfold reindexVectors
      split
      · exact step_unchanged
      · exact step_unchanged
      · rename_i schema _
        rcases putVectors_eq database.store (fun record => schema.vector record.value)
          (database.store.records.range (Store.typeRange typeName).1
            (Store.typeRange typeName).2) with ⟨vectors, folded⟩
        dsimp only
        rw [folded]
        exact .vectors vectors
  | newGenerator nth => exact .supplied _

end Database

end RecordIndex
