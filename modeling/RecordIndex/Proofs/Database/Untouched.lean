import RecordIndex.Proofs.Database.Orderly

namespace RecordIndex

/-!
# Before anything is stored

A write first finds out what to store and where.  It reads the store for this,
draws names and asks for schemas.  A schema that is asked for is only made if
its type has none yet.  So as long as every type is registered, nothing has
come of the transaction by then, and what it goes on to store is a function of
the database and of the names that were drawn.
-/

namespace Transaction

/-- Nothing has come of the transaction, but for names that were drawn. -/
structure Untouched (database : Database) (txn : Transaction) : Prop where
  isStore : txn.store = database.store
  noSchemas : txn.schemas = .empty

variable {database : Database} {txn : Transaction}

theorem untouched_start (database : Database) : database.start.Untouched database :=
  ⟨rfl, rfl⟩

theorem Untouched.draw (untouched : txn.Untouched database) (supply : IdSupply) :
    Untouched database { txn with supply } :=
  ⟨untouched.isStore, untouched.noSchemas⟩

/-- What nothing has come of leaves everything but the supply as it was. -/
theorem Untouched.commit (untouched : txn.Untouched database) :
    database.commit txn = { database with supply := txn.supply } := by
  unfold Database.commit
  rw [untouched.isStore, untouched.noSchemas]
  rfl

end Transaction

namespace Database

/-- The type, if there is one, has a schema. -/
def Registers (database : Database) (typeName : Option String) : Prop :=
  ∀ name ∈ typeName, (database.registry.get? name).isSome

/-- The value that a copy of a record gets under a key. -/
def copiedValue (database : Database) (source : StoredRecord) (key : String) : Value :=
  match source.typeName with
  | none => source.value
  | some name => (database.schemaOf name).rebindIdentity key source.value

variable {database : Database}

/-- A type that is found in front of a key is registered. -/
theorem Orderly.registers_typeOfKey? (orderly : database.Orderly) (key : String) :
    database.Registers (database.typeOfKey? key) := by
  intro name isName
  unfold typeOfKey? at isName
  split at isName
  · rcases Option.map_eq_some_iff.mp isName with ⟨schema, found, rfl⟩
    rw [orderly.named _ schema found, found]
    rfl
  · cases isName

/-- The type of a record is registered. -/
theorem Orderly.registers_previous (orderly : database.Orderly) (key : String) :
    database.Registers ((database.store.records.get? key).bind StoredRecord.typeName) := by
  intro name isName
  rcases Option.bind_eq_some_iff.mp isName with ⟨record, found, isTyped⟩
  exact (orderly.kept key record found).isKnown name isTyped

/-- A transaction that succeeds is carried out. -/
theorem write_of_ok {Result : Type} {action : Write Result} {result : Result} {txn : Transaction}
    (ran : action.run database.start = (.ok result, txn)) :
    database.write action = (.ok result, database.commit txn) := by
  have isStart : (⟨database.store, .empty, database.supply⟩ : Transaction) = database.start := rfl
  unfold write
  rw [isStart, ran]
  rfl

/-- Of a transaction that fails, only the names it has drawn are left. -/
theorem write_of_error {Result : Type} {action : Write Result} {cause : Error}
    {txn : Transaction} (ran : action.run database.start = (.error cause, txn)) :
    database.write action = (.error cause, { database with supply := txn.supply }) := by
  have isStart : (⟨database.store, .empty, database.supply⟩ : Transaction) = database.start := rfl
  unfold write
  rw [isStart, ran]

theorem write_cases {Result : Type} (database : Database) (action : Write Result) :
    (∃ cause txn, action.run database.start = (.error cause, txn) ∧
      database.write action = (.error cause, { database with supply := txn.supply })) ∨
    ∃ result txn, action.run database.start = (.ok result, txn) ∧
      database.write action = (.ok result, database.commit txn) := by
  cases ran : action.run database.start with
  | mk outcome txn =>
      cases outcome with
      | error cause => exact .inl ⟨cause, txn, rfl, write_of_error ran⟩
      | ok result => exact .inr ⟨result, txn, rfl, write_of_ok ran⟩

end Database

namespace Write

open Database Transaction

variable {database : Database}

theorem Ensures.atStart {Result : Type} {action : Write Result}
    {after : Result -> Transaction -> Prop} (ensures : Ensures action (Untouched database) after) :
    Ensures action (fun txn => txn = database.start) after :=
  ensures.given fun _ isStart => isStart ▸ untouched_start database

/-! ## Parts that leave everything alone -/

theorem untouched_record? (key : String) :
    Ensures (record? key) (Untouched database)
      fun record txn => txn.Untouched database ∧ record = database.store.records.get? key := by
  unfold record?
  refine Ensures.withState fun txn untouched => Ensures.pure ?_
  rintro final rfl
  exact ⟨untouched, by rw [untouched.isStore]⟩

/-- The schema of a registered type is the registered one. -/
theorem run_schema {typeName : String} (isRegistered : (database.registry.get? typeName).isSome)
    {txn : Transaction} (untouched : txn.Untouched database) :
    (schema database typeName).run txn = (.ok (database.schemaOf typeName), txn) := by
  rcases Option.isSome_iff_exists.mp isRegistered with ⟨registered, isSchema⟩
  have looks : (get : Write Transaction).run txn = (.ok txn, txn) := rfl
  unfold schema schemaOf
  rw [run_bind_ok looks, untouched.noSchemas, isSchema]
  rfl

theorem untouched_schema {typeName : String}
    (isRegistered : (database.registry.get? typeName).isSome) :
    Ensures (schema database typeName) (Untouched database)
      fun schema txn => txn.Untouched database ∧ schema = database.schemaOf typeName := by
  intro start untouched result final runs
  rw [run_schema isRegistered untouched] at runs
  cases runs
  exact ⟨untouched, rfl⟩

theorem untouched_generateId (schema : Schema) :
    Ensures (generateId schema) (Untouched database) fun _ txn => txn.Untouched database :=
  Ensures.modifyGet fun _ untouched => untouched.draw _

theorem untouched_generateKey :
    Ensures generateKey (Untouched database) fun _ txn => txn.Untouched database :=
  Ensures.modifyGet fun _ untouched => untouched.draw _

theorem untouched_putKey {typeName : Option String} (registers : database.Registers typeName)
    (key : Option String) (value : Value) :
    Ensures (putKey database key typeName value) (Untouched database)
      fun _ txn => txn.Untouched database := by
  unfold putKey
  split
  · exact Ensures.pure fun _ untouched => untouched
  · unfold chooseKey
    split
    · exact untouched_generateKey
    · rename_i name
      refine (untouched_schema (registers name rfl)).bind fun schema => ?_
      refine (Ensures.lift.given fun txn ensured => ensured.1).bind fun wanted => ?_
      split
      · exact Ensures.pure fun txn ensured => ensured.1
      · exact (untouched_generateId schema).given fun txn ensured => ensured.1

theorem untouched_copyKey {typeName : Option String} (registers : database.Registers typeName)
    (destination : Option String) :
    Ensures (copyKey database destination typeName) (Untouched database)
      fun key txn => txn.Untouched database ∧ ∀ chosen ∈ destination, key = chosen := by
  unfold copyKey
  split
  · exact Ensures.pure fun txn untouched => ⟨untouched, fun _ same => Option.some.inj same⟩
  · exact untouched_generateKey.imp fun _ txn untouched => ⟨untouched, nofun⟩
  · rename_i name
    refine (untouched_schema (registers name rfl)).bind fun schema => ?_
    exact (untouched_generateId schema).weaken (fun txn ensured => ensured.1)
      fun _ txn untouched => ⟨untouched, nofun⟩

theorem untouched_bindIdentity {typeName : Option String}
    (registers : database.Registers typeName) (key : String) (value : Value) :
    Ensures (bindIdentity database key typeName value) (Untouched database)
      fun _ txn => txn.Untouched database := by
  unfold bindIdentity
  split
  · exact Ensures.pure fun _ untouched => untouched
  · rename_i name
    refine (untouched_schema (registers name rfl)).bind fun schema => ?_
    exact Ensures.lift.weaken (fun txn ensured => ensured.1) fun _ txn ensured => ensured.1

theorem run_rebindIdentity {source : StoredRecord}
    (registers : database.Registers source.typeName) (key : String) {txn : Transaction}
    (untouched : txn.Untouched database) :
    (rebindIdentity database key source.typeName source.value).run txn =
      (.ok (database.copiedValue source key), txn) := by
  unfold copiedValue
  cases isTyped : source.typeName with
  | none => rfl
  | some name =>
      unfold rebindIdentity
      rw [run_bind_ok (run_schema (registers name isTyped) untouched)]
      rfl

theorem untouched_rebindIdentity {source : StoredRecord}
    (registers : database.Registers source.typeName) (key : String) :
    Ensures (rebindIdentity database key source.typeName source.value) (Untouched database)
      fun value txn => txn.Untouched database ∧ value = database.copiedValue source key := by
  intro start untouched result final runs
  rw [run_rebindIdentity registers key untouched] at runs
  cases runs
  exact ⟨untouched, rfl⟩

/-! ## What is about to be stored -/

/-- A value under a registered type, or under none, is put without changing
any schema. -/
theorem untouched_pendingPut (orderly : database.Orderly) (key : Option String) (value : Value)
    {options : PutOptions} (registers : database.Registers options.typeName) :
    Ensures (pendingPut database key value options) (Untouched database)
      fun _ txn => txn.Untouched database := by
  unfold pendingPut
  refine (untouched_putKey registers key value).bind fun key => ?_
  refine (untouched_record? key).bind fun previous => Ensures.assume fun isPrevious => ?_
  subst isPrevious
  refine (Ensures.lift.given fun _ untouched => untouched).bind fun _ => Ensures.assume fun _ => ?_
  have registersAll : database.Registers ((options.typeName.or
      ((database.store.records.get? key).bind StoredRecord.typeName)).or
        (database.typeOfKey? key)) := by
    intro name isName
    rcases Option.or_eq_some_iff.mp isName with given | ⟨_, found⟩
    · rcases Option.or_eq_some_iff.mp given with asked | ⟨_, previous⟩
      · exact registers name asked
      · exact orderly.registers_previous key name previous
    · exact orderly.registers_typeOfKey? key name found
  refine (untouched_bindIdentity registersAll key value).bind fun bound => ?_
  split
  · exact Ensures.pure fun _ untouched => untouched
  · exact Ensures.pure fun _ untouched => untouched

/-- What a copy stores under its key: the value of the source with its own
identity, if the source has the version that is asked for. -/
theorem untouched_pendingCopy (orderly : database.Orderly) (key : String)
    (destination : Option String) (options : CopyOptions) :
    Ensures (pendingCopy database key destination options) (Untouched database)
      fun result txn => txn.Untouched database ∧ ∀ copied ∈ result,
        database.store.records.get? key = some copied.2 ∧
        (∀ chosen ∈ destination, copied.1.key = chosen) ∧
        copied.1.typeName = copied.2.typeName ∧
        copied.1.value = database.copiedValue copied.2 copied.1.key := by
  unfold pendingCopy
  refine (untouched_record? key).bind fun source => Ensures.assume fun isSource => ?_
  split
  · exact Ensures.pure fun txn untouched => ⟨untouched, nofun⟩
  · rename_i source
    split
    · have registers : database.Registers source.typeName :=
        (orderly.kept key source isSource.symm).isKnown
      refine (untouched_copyKey registers destination).bind fun target => ?_
      refine Ensures.assume fun isTarget => ?_
      refine Ensures.lift.bind fun _ => Ensures.assume fun _ => ?_
      refine (untouched_record? target).bind fun previous => Ensures.assume fun _ => ?_
      refine Ensures.lift.bind fun _ => Ensures.assume fun _ => ?_
      refine (untouched_rebindIdentity registers target).bind fun bound => ?_
      refine Ensures.assume fun isBound => Ensures.pure fun txn untouched => ⟨untouched, ?_⟩
      intro copied isCopied
      cases isCopied
      exact ⟨isSource.symm, isTarget, rfl, isBound⟩
    · exact Ensures.pure fun txn untouched => ⟨untouched, nofun⟩

end Write

end RecordIndex
