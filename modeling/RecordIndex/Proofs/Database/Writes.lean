import RecordIndex.Proofs.Database.Learning

namespace RecordIndex

/-!
# What a write leads to

A write that succeeds either leaves the store as it was or stores one record in
place of the one that was under its key; a removal takes a record away, and a
move does one after the other.  In each case the terms of the old and the new
record are carried over to the indexes.
-/

namespace PendingRecord

/-- The pending record knows what it takes the place of, and its key is one of
its type. -/
structure Fits (store : Store) (pending : PendingRecord) : Prop where
  isPrevious : pending.previous = store.records.get? pending.key
  isPlaced : Write.checkPlace pending.key pending.typeName = .ok ()

/-- The version that is stored: the one that is given, or the one after the
last. -/
def nextVersion (pending : PendingRecord) : Nat :=
  (pending.version.or (pending.previous.map fun record => record.version + 1)).getD 1

/-- The record that is stored. -/
def record (database : Database) (pending : PendingRecord) (version : Nat) : StoredRecord where
  version := version
  typeName := pending.typeName
  body := pending.value.encode database.config.keepUndefined

end PendingRecord

namespace Database

/-- The store with a pending record in its place. -/
def withRecord (database : Database) (store : Store) (pending : PendingRecord) (version : Nat)
    (vector : FeatureVector) : Store :=
  ((store.putVector pending.key vector).putRecord pending.key
    (pending.record database version)).changeTerms pending.key
      ((pending.previous.map database.expectedTerms).getD .empty)
      (database.typedTerms pending.typeName pending.value)

/-- The store without a record. -/
def withoutRecord (database : Database) (store : Store) (key : String)
    (previous : StoredRecord) : Store :=
  ((store.removeRecord key).removeVector key).changeTerms key (database.expectedTerms previous)
    .empty

/-- Where every transaction starts. -/
def start (database : Database) : Transaction :=
  ⟨database.store, .empty, database.supply⟩

theorem steady_start (database : Database) :
    database.start.Steady database database.store none :=
  ⟨rfl, nofun, nofun⟩

end Database

namespace Write

open Database Transaction

variable {database : Database} {store : Store} {known : Option String}

/-- A transaction is steady at its start. -/
theorem Ensures.ofSteady {Result : Type} {action : Write Result}
    {after : Result -> Transaction -> Prop}
    (ensures : Ensures action (Steady database database.store none) after) :
    Ensures action (fun txn => txn = database.start) after :=
  ensures.given fun _ isStart => isStart ▸ database.steady_start

/-! ## What is about to be stored -/

/-- What is done to a record of a wanted version ensures what it does to this
record, if doing nothing ensures it as well. -/
theorem ensures_ofVersion {Result : Type} (key : String) (ifVersion : Option Nat)
    {rest : StoredRecord -> Write (Option Result)} {after : Option Result -> Transaction -> Prop}
    (nothing : forall txn, txn.Steady database store known -> after none txn)
    (ensures : forall record, store.records.get? key = some record ->
      StoredRecord.hasVersion ifVersion (some record) = true ->
        Ensures (rest record) (Steady database store known) after) :
    Ensures (do
      match ← record? key with
      | none => return none
      | some record =>
          if StoredRecord.hasVersion ifVersion (some record) then rest record
          else return none) (Steady database store known) after := by
  refine (ensures_record? key).bind fun found => Ensures.assume fun isFound => ?_
  split
  · exact Ensures.pure nothing
  · rename_i record
    split
    · rename_i hasVersion
      exact ensures record isFound.symm hasVersion
    · exact Ensures.pure nothing

theorem ensures_pendingPut (named : Named database.registry) (key : Option String)
    (value : Value) (options : PutOptions) :
    Ensures (pendingPut database key value options) (Steady database store known)
      fun result txn => txn.Steady database store known ∧
        ∀ pending ∈ result, pending.Fits store := by
  unfold pendingPut
  refine (ensures_putKey named key options.typeName value).bind fun key => ?_
  refine (ensures_record? key).bind fun previous => Ensures.assume fun isPrevious => ?_
  refine Ensures.lift.bind fun _ => Ensures.assume fun isPlaced => ?_
  refine (ensures_bindIdentity named key _ value).bind fun bound => ?_
  split
  · refine Ensures.pure fun txn steady => ⟨steady, ?_⟩
    intro pending isPending
    cases isPending
    exact ⟨isPrevious, isPlaced⟩
  · exact Ensures.pure fun txn steady => ⟨steady, nofun⟩

/-- A patched record stays where it is, so it must have been a record of its
type before. -/
theorem ensures_pendingPatch (named : Named database.registry) (key : String) (changes : Value)
    (version ifVersion : Option Nat)
    (isPlaced : ∀ record ∈ store.records.get? key, checkPlace key record.typeName = .ok ()) :
    Ensures (pendingPatch database key changes version ifVersion) (Steady database store known)
      fun result txn => txn.Steady database store known ∧
        ∀ pending ∈ result, pending.Fits store ∧ pending.key = key := by
  refine ensures_ofVersion key ifVersion (fun txn steady => ⟨steady, nofun⟩)
    fun previous isPrevious _ => ?_
  refine (ensures_bindIdentity named key previous.typeName _).bind fun bound => ?_
  refine Ensures.pure fun txn steady => ⟨steady, ?_⟩
  intro pending isPending
  cases isPending
  exact ⟨⟨isPrevious.symm, isPlaced previous isPrevious⟩, rfl⟩

theorem ensures_pendingCopy (named : Named database.registry) (key : String)
    (destination : Option String) (options : CopyOptions) :
    Ensures (pendingCopy database key destination options) (Steady database store known)
      fun result txn => txn.Steady database store known ∧
        ∀ copied ∈ result, copied.1.Fits store ∧ store.records.get? key = some copied.2 ∧
          ∀ chosen ∈ destination, copied.1.key = chosen := by
  refine ensures_ofVersion key options.ifVersion (fun txn steady => ⟨steady, nofun⟩)
    fun source isSource _ => ?_
  refine (ensures_copyKey named destination source.typeName).bind fun target => ?_
  refine Ensures.assume fun isTarget => ?_
  refine Ensures.lift.bind fun _ => Ensures.assume fun isPlaced => ?_
  refine (ensures_record? target).bind fun previous => Ensures.assume fun isPrevious => ?_
  refine Ensures.lift.bind fun _ => Ensures.assume fun _ => ?_
  refine (ensures_rebindIdentity named target source.typeName source.value).bind fun bound => ?_
  refine Ensures.pure fun txn steady => ⟨steady, ?_⟩
  intro copied isCopied
  cases isCopied
  exact ⟨⟨isPrevious, isPlaced⟩, isSource, isTarget⟩

/-! ## Storing and removing -/

/-- The schema of an optional type. -/
theorem ensures_mapM_schema (named : Named database.registry) (typeName : Option String) :
    Ensures (typeName.mapM (schema database)) (Steady database store known)
      fun schema txn => txn.Steady database store typeName ∧
        schema.map Schema.typeName = typeName ∧
        ∀ stood ∈ schema, database.StandsFor stood.typeName stood := by
  cases typeName with
  | none => exact Ensures.pure fun txn steady => ⟨steady.forget, rfl, nofun⟩
  | some name =>
      refine Ensures.map ((ensures_schema named name).imp ?_)
      rintro schema txn ⟨⟨steady, knows⟩, stands⟩
      refine ⟨steady.learn knows, congrArg some stands.1, ?_⟩
      intro stood same
      cases same
      exact stands.1.symm ▸ stands

/-- A record is stored with the vector that the schema of its type makes, as the
transaction sees it then. -/
theorem ensures_putRecord (named : Named database.registry) (pending : PendingRecord) :
    Ensures (putRecord database pending) (Steady database store known)
      fun _ txn =>
        txn.Steady database (database.withRecord store pending pending.nextVersion
          (txn.vectorOf database pending.typeName pending.value)) pending.typeName := by
  unfold putRecord
  refine (ensures_storedTerms named pending.previous).bind fun oldTerms => ?_
  refine Ensures.assume fun isOld => ?_
  have finds : Ensures (pending.typeName.mapM (schema database)) (Steady database store known)
      fun schema txn =>
        (txn.Steady database store pending.typeName ∧
          pending.typeName.bind (txn.schema? database) = schema) ∧
        schema.map Schema.typeName = pending.typeName ∧
        ∀ stood ∈ schema, database.StandsFor stood.typeName stood :=
    ((ensures_mapM_schema named pending.typeName).and
      (ensures_mapM_schema_seen pending.typeName)).weaken (fun _ steady => ⟨steady, steady⟩)
      fun _ _ ensured => ⟨⟨ensured.1.1, ensured.2⟩, ensured.1.2⟩
  refine finds.bind fun schema => ?_
  refine Ensures.assume fun isSchema => ?_
  have newTerms : (schema.map fun schema => database.terms schema pending.value).getD .empty =
      database.typedTerms pending.typeName pending.value := by
    rcases isSchema with ⟨isName, stands⟩
    rw [← isName]
    cases schema with
    | none => rfl
    | some schema => exact (stands schema rfl).terms_eq pending.value
  refine ((ensures_learnedVector pending.value isSchema.2).and
    (ensures_learnedVector_seen isSchema.1 pending.value)).bind fun vector => ?_
  rw [isOld, newTerms]
  refine Ensures.modify fun txn ensured => ?_
  rw [ensured.2]
  exact ensured.1.toStore fun store => database.withRecord store pending _ _

theorem ensures_removeRecord (named : Named database.registry) (key : String)
    (previous : StoredRecord) :
    Ensures (removeRecord database key previous) (Steady database store known)
      fun _ txn => txn.Steady database (database.withoutRecord store key previous) known := by
  unfold removeRecord
  refine (ensures_storedTerms named (some previous)).bind fun oldTerms => ?_
  refine Ensures.assume fun isOld => ?_
  rw [isOld]
  exact Ensures.modify fun txn steady =>
    steady.toStore fun store => database.withoutRecord store key previous

/-! ## Actions that do not fail -/

variable {Result Next : Type}

/-- The action does not fail, wherever it starts. -/
def Succeeds (action : Write Result) : Prop :=
  forall start, ∃ result final, action.run start = (.ok result, final)

theorem Succeeds.pure (result : Result) : Succeeds (Pure.pure result) :=
  fun start => ⟨result, start, rfl⟩

theorem Succeeds.bind {first : Write Result} {next : Result -> Write Next}
    (one : Succeeds first) (two : forall result, Succeeds (next result)) :
    Succeeds (first >>= next) := by
  intro start
  rcases one start with ⟨result, middle, ran⟩
  rw [run_bind_ok ran]
  exact two result middle

theorem Succeeds.map {action : Write Result} (succeeds : Succeeds action)
    (make : Result -> Next) : Succeeds (make <$> action) := by
  rw [← bind_pure_comp]
  exact succeeds.bind fun result => pure (make result)

theorem Succeeds.modifyGet (change : Transaction -> Result × Transaction) :
    Succeeds (modifyGet change : Write Result) :=
  fun start => ⟨(change start).1, (change start).2, rfl⟩

theorem succeeds_get : Succeeds (get : Write Transaction) :=
  fun start => ⟨start, start, rfl⟩

theorem succeeds_schema (database : Database) (typeName : String) :
    Succeeds (schema database typeName) := by
  unfold schema
  refine succeeds_get.bind fun txn => ?_
  split
  · exact .pure _
  · split
    · exact .pure _
    · exact (Succeeds.modifyGet _).bind fun _ => .pure _

theorem succeeds_storedTerms (database : Database) (record : Option StoredRecord) :
    Succeeds (storedTerms database record) := by
  unfold storedTerms
  split
  · exact .pure _
  · split
    · exact .pure _
    · exact (succeeds_schema database _).bind fun _ => .pure _

theorem succeeds_learnedVector (database : Database) (schema : Option Schema) (value : Value) :
    Succeeds (learnedVector database schema value) := by
  unfold learnedVector
  split
  · exact .pure _
  · split
    · dsimp only
      split
      · exact (Succeeds.modifyGet _).bind fun _ => .pure _
      · exact .pure _
    · exact .pure _

/-- Once it is known what to store, storing it does not fail. -/
theorem succeeds_putRecord (database : Database) (pending : PendingRecord) :
    Succeeds (putRecord database pending) := by
  unfold putRecord
  refine (succeeds_storedTerms database pending.previous).bind fun _ => ?_
  have schemaOfType : Succeeds (pending.typeName.mapM (schema database)) := by
    cases pending.typeName with
    | none => exact .pure _
    | some name => exact (succeeds_schema database name).map some
  refine schemaOfType.bind fun schema => ?_
  exact (succeeds_learnedVector database schema pending.value).bind fun _ => .modifyGet _

theorem succeeds_removeRecord (database : Database) (key : String) (previous : StoredRecord) :
    Succeeds (removeRecord database key previous) := by
  unfold removeRecord
  exact (succeeds_storedTerms database (some previous)).bind fun _ => .modifyGet _

end Write

end RecordIndex
