import RecordIndex.Database.Integrity
import RecordIndex.Database.Records
import RecordIndex.Proofs.Index.Holding

namespace RecordIndex

/-!
# What the parts of a write do

An action is described by what holds wherever it succeeds.  The parts of a
write leave the store alone until the record is stored, and every schema that
they make or change keeps the indexed paths that its type has.  So all of them
derive the same terms, those that the database expects of its records.
-/

namespace Write

variable {Result Next : Type}

/-- The rest of an action runs from where its first part has come to. -/
theorem run_bind_ok {first : Write Result} {next : Result -> Write Next}
    {start middle : Transaction} {value : Result}
    (ran : first.run start = (.ok value, middle)) :
    (first >>= next).run start = (next value).run middle := by
  change ExceptT.bindCont next (first.run start).1 (first.run start).2 = _
  rw [ran]
  rfl

theorem run_bind_error {first : Write Result} {next : Result -> Write Next}
    {start middle : Transaction} {cause : Error}
    (ran : first.run start = (.error cause, middle)) :
    (first >>= next).run start = (.error cause, middle) := by
  change ExceptT.bindCont next (first.run start).1 (first.run start).2 = _
  rw [ran]
  rfl

/-- Wherever the action succeeds from a state that satisfies `before`, its
result and the state it leaves satisfy `after`. -/
def Ensures (action : Write Result) (before : Transaction -> Prop)
    (after : Result -> Transaction -> Prop) : Prop :=
  forall start, before start -> forall result final,
    action.run start = (.ok result, final) -> after result final

namespace Ensures

variable {before before' : Transaction -> Prop} {after : Result -> Transaction -> Prop}

theorem pure {result : Result} (holds : forall txn, before txn -> after result txn) :
    Ensures (Pure.pure result) before after := by
  intro start isStart result' final runs
  cases runs
  exact holds start isStart

theorem bind {first : Write Result} {next : Result -> Write Next}
    {last : Next -> Transaction -> Prop} (one : Ensures first before after)
    (two : forall result, Ensures (next result) (after result) last) :
    Ensures (first >>= next) before last := by
  intro start isStart result final runs
  cases ran : first.run start with
  | mk outcome middle =>
      cases outcome with
      | error cause =>
          rw [run_bind_error ran] at runs
          cases runs
      | ok value =>
          rw [run_bind_ok ran] at runs
          exact two value middle (one start isStart value middle ran) result final runs

theorem map {action : Write Result} {make : Result -> Next} {last : Next -> Transaction -> Prop}
    (ensures : Ensures action before fun result txn => last (make result) txn) :
    Ensures (make <$> action) before last := by
  rw [← bind_pure_comp]
  exact ensures.bind fun result => pure fun txn holds => holds

/-- An action of which nothing has to be known. -/
theorem anything {action : Write Result} : Ensures action before fun _ _ => True :=
  fun _ _ _ _ _ => trivial

/-- What an action ensures can be told of less and weakened. -/
theorem weaken {action : Write Result} {after' : Result -> Transaction -> Prop}
    (ensures : Ensures action before after) (start : forall txn, before' txn -> before txn)
    (final : forall result txn, after result txn -> after' result txn) :
    Ensures action before' after' :=
  fun txn isStart result left runs =>
    final result left (ensures txn (start txn isStart) result left runs)

theorem and {action : Write Result} {after' : Result -> Transaction -> Prop}
    (ensures : Ensures action before after) (ensures' : Ensures action before' after') :
    Ensures action (fun txn => before txn ∧ before' txn)
      (fun result txn => after result txn ∧ after' result txn) :=
  fun txn isStart result left runs =>
    ⟨ensures txn isStart.1 result left runs, ensures' txn isStart.2 result left runs⟩

/-- What an action ensures, from states of which more is known. -/
theorem given {action : Write Result} (ensures : Ensures action before after)
    (start : forall txn, before' txn -> before txn) : Ensures action before' after :=
  ensures.weaken start fun _ _ => id

/-- What follows from what an action ensures. -/
theorem imp {action : Write Result} {after' : Result -> Transaction -> Prop}
    (ensures : Ensures action before after)
    (final : forall result txn, after result txn -> after' result txn) :
    Ensures action before after' :=
  ensures.weaken (fun _ => id) final

/-- From a given start, the run of an action is known as well. -/
theorem ran {action : Write Result} (ensures : Ensures action before after)
    {start : Transaction} (isStart : before start) :
    Ensures action (fun txn => txn = start) fun result txn =>
      after result txn ∧ action.run start = (.ok result, txn) := by
  rintro _ rfl result final runs
  exact ⟨ensures _ isStart result final runs, runs⟩

/-- A fact that does not depend on the state is brought out of it. -/
theorem assume {action : Write Result} {fact : Prop}
    (ensures : fact -> Ensures action before after) :
    Ensures action (fun txn => before txn ∧ fact) after :=
  fun txn isStart => ensures isStart.2 txn isStart.1

/-- After a look at the state, the rest starts from that very state. -/
theorem withState {next : Transaction -> Write Next} {last : Next -> Transaction -> Prop}
    (rest : forall txn, before txn -> Ensures (next txn) (fun start => start = txn) last) :
    Ensures (get >>= next) before last :=
  fun txn isStart result final runs => rest txn isStart txn rfl result final runs

/-- An outcome that is already known. -/
theorem lift {outcome : Except Error Result} :
    Ensures (liftM outcome : Write Result) before
      fun result txn => before txn ∧ outcome = .ok result := by
  intro start isStart result final runs
  cases outcome with
  | error cause => cases runs
  | ok value =>
      cases runs
      exact ⟨isStart, rfl⟩

theorem modifyGet {change : Transaction -> Result × Transaction}
    (holds : forall txn, before txn -> after (change txn).1 (change txn).2) :
    Ensures (modifyGet change : Write Result) before after := by
  intro start isStart result final runs
  cases runs
  exact holds start isStart

theorem modify {change : Transaction -> Transaction} {after : Unit -> Transaction -> Prop}
    (holds : forall txn, before txn -> after () (change txn)) :
    Ensures (MonadStateOf.modifyGet fun txn => ((), change txn)) before after := by
  intro start isStart result final runs
  cases runs
  exact holds start isStart

end Ensures

end Write

/-! ## Schemas and terms -/

namespace Database

/-- The schema that the records of a type go by. -/
def schemaOf (database : Database) (typeName : String) : Schema :=
  (database.registry.get? typeName).getD (.ofType typeName)

/-- The schemas are registered under the names of their types. -/
def Named (registry : Registry) : Prop :=
  forall typeName schema, registry.get? typeName = some schema -> schema.typeName = typeName

/-- The schema stands for the type and has its indexed paths and its identity
property. -/
def StandsFor (database : Database) (typeName : String) (schema : Schema) : Prop :=
  schema.typeName = typeName ∧
    schema.indexedPaths = (database.schemaOf typeName).indexedPaths ∧
    schema.idProperty = (database.schemaOf typeName).idProperty

/-- The terms that a value is expected to have under a type, if it has one. -/
def typedTerms (database : Database) (typeName : Option String) (value : Value) : TermCounts :=
  match typeName with
  | some typeName => database.terms (database.schemaOf typeName) value
  | none => .empty

theorem expectedTerms_eq (database : Database) (record : StoredRecord) :
    database.expectedTerms record = database.typedTerms record.typeName record.value := by
  unfold expectedTerms typedTerms
  cases record.typeName with
  | none => rfl
  | some typeName => rfl

theorem StandsFor.terms_eq {database : Database} {typeName : String} {schema : Schema}
    (stands : database.StandsFor typeName schema) (value : Value) :
    database.terms schema value = database.terms (database.schemaOf typeName) value := by
  unfold terms deriver
  rw [stands.2.1]

theorem keyed_typedTerms (database : Database) (typeName : Option String) (value : Value) :
    (database.typedTerms typeName value).Keyed := by
  cases typeName with
  | none => exact TermCounts.Keyed.empty
  | some typeName => exact Deriver.keyed_recordCounts _ _

end Database

namespace Transaction

/-- The type has a schema, in the transaction or before it. -/
def Knows (database : Database) (txn : Transaction) (typeName : String) : Prop :=
  (txn.schemas.get? typeName).isSome ∨ (database.registry.get? typeName).isSome

/-- The transaction has come so far with this store.  Its schemas stand for
their types, and those types that are named have schemas. -/
structure Steady (database : Database) (store : Store) (known : Option String)
    (txn : Transaction) : Prop where
  isStore : txn.store = store
  stands : forall typeName schema, txn.schemas.get? typeName = some schema ->
    database.StandsFor typeName schema
  knows : forall typeName, known = some typeName -> txn.Knows database typeName

variable {database : Database} {store : Store} {known : Option String} {txn : Transaction}

theorem Steady.update (steady : txn.Steady database store known) {typeName : String}
    {schema : Schema} (stands : database.StandsFor typeName schema) :
    Steady database store known { txn with schemas := txn.schemas.define schema } := by
  have isName : schema.typeName = typeName := stands.1
  refine ⟨steady.isStore, ?_, ?_⟩
  · intro other schema' found
    by_cases same : other = schema.typeName
    · subst same
      have isSchema : schema = schema' :=
        Option.some.inj ((Table.get?_insert_self txn.schemas _ schema).symm.trans found)
      exact isSchema ▸ isName.symm ▸ stands
    · have before : txn.schemas.get? other = some schema' :=
        (Table.get?_insert_of_ne same txn.schemas schema).symm.trans found
      exact steady.stands other schema' before
  · intro other isKnown
    rcases steady.knows other isKnown with here | before
    · apply Or.inl
      by_cases same : other = schema.typeName
      · have found := Table.get?_insert_self txn.schemas schema.typeName schema
        exact same ▸ Option.isSome_of_mem found
      · have found := Table.get?_insert_of_ne same txn.schemas schema
        exact found ▸ here
    · exact Or.inr before

/-- Only the supply has changed. -/
theorem Steady.draw (steady : txn.Steady database store known) (supply : IdSupply) :
    Steady database store known { txn with supply } :=
  ⟨steady.isStore, steady.stands, steady.knows⟩

theorem Steady.toStore (steady : txn.Steady database store known) (change : Store -> Store) :
    Steady database (change store) known { txn with store := change txn.store } :=
  ⟨congrArg change steady.isStore, steady.stands, steady.knows⟩

theorem Steady.learn (steady : txn.Steady database store known) {typeName : String}
    (knows : txn.Knows database typeName) : txn.Steady database store (some typeName) :=
  ⟨steady.isStore, steady.stands, fun _ same => Option.some.inj same ▸ knows⟩

theorem Steady.forget (steady : txn.Steady database store known) :
    txn.Steady database store none :=
  ⟨steady.isStore, steady.stands, nofun⟩

end Transaction

namespace Write

open Database Transaction

variable {database : Database} {store : Store} {known : Option String}

/-! ## Actions that leave the store alone -/

theorem ensures_record? (key : String) :
    Ensures (record? key) (Steady database store known)
      fun record txn => txn.Steady database store known ∧ record = store.records.get? key := by
  unfold record?
  refine Ensures.withState fun txn steady => Ensures.pure ?_
  rintro final rfl
  exact ⟨steady, by rw [steady.isStore]⟩

theorem ensures_updateSchema {typeName : String} {schema : Schema}
    (stands : database.StandsFor typeName schema) :
    Ensures (updateSchema schema) (Steady database store known)
      fun _ txn => txn.Steady database store known ∧ txn.Knows database typeName := by
  refine Ensures.modify fun txn steady => ⟨steady.update stands, Or.inl ?_⟩
  have found := Table.get?_insert_self txn.schemas schema.typeName schema
  exact stands.1 ▸ Option.isSome_of_mem found

/-- The schema of a type stands for it, and from then on the type has one. -/
theorem ensures_schema (named : Named database.registry) (typeName : String) :
    Ensures (schema database typeName) (Steady database store known)
      fun schema txn => (txn.Steady database store known ∧ txn.Knows database typeName) ∧
        database.StandsFor typeName schema := by
  unfold schema
  refine Ensures.withState fun txn steady => ?_
  split
  · rename_i schema own
    refine Ensures.pure ?_
    rintro final rfl
    exact ⟨⟨steady, Or.inl (Option.isSome_of_mem own)⟩, steady.stands typeName schema own⟩
  · split
    · rename_i schema registered
      have isSchema : database.schemaOf typeName = schema := by
        unfold schemaOf
        rw [registered]
        rfl
      refine Ensures.pure ?_
      rintro final rfl
      exact ⟨⟨steady, Or.inr (Option.isSome_of_mem registered)⟩,
        named typeName schema registered, by rw [isSchema], by rw [isSchema]⟩
    · rename_i unregistered
      have isNew : database.schemaOf typeName = .ofType typeName := by
        unfold schemaOf
        rw [unregistered]
        rfl
      have stands : database.StandsFor typeName (.ofType typeName) :=
        ⟨rfl, by rw [isNew], by rw [isNew]⟩
      have updates := (ensures_updateSchema stands).given
        (fun start (same : start = txn) => same ▸ steady)
      exact updates.bind fun _ => Ensures.pure fun final ensured => ⟨ensured, stands⟩

/-- The terms that a stored record has are those that are expected of it. -/
theorem ensures_storedTerms (named : Named database.registry) (record : Option StoredRecord) :
    Ensures (storedTerms database record) (Steady database store known)
      fun terms txn => txn.Steady database store known ∧
        terms = (record.map database.expectedTerms).getD .empty := by
  unfold storedTerms
  split
  · exact Ensures.pure fun txn steady => ⟨steady, rfl⟩
  · rename_i record
    split
    · rename_i untyped
      refine Ensures.pure fun txn steady => ⟨steady, ?_⟩
      rw [Option.map_some, Option.getD_some, expectedTerms_eq, untyped]
      rfl
    · rename_i typeName typed
      refine (ensures_schema named typeName).bind fun schema => Ensures.pure ?_
      rintro txn ⟨⟨steady, _⟩, stands⟩
      refine ⟨steady, ?_⟩
      rw [Option.map_some, Option.getD_some, expectedTerms_eq, typed, stands.terms_eq]
      rfl

/-- Learning from a record does not change which paths are indexed. -/
theorem ensures_learnedVector {schema : Option Schema} (value : Value)
    (stands : ∀ schema' ∈ schema, database.StandsFor schema'.typeName schema') :
    Ensures (learnedVector database schema value) (Steady database store known)
      fun _ txn => txn.Steady database store known := by
  unfold learnedVector
  split
  · exact Ensures.pure fun txn steady => steady
  · rename_i schema
    split
    · have learnedStands : database.StandsFor schema.typeName (schema.learn value).1 :=
        stands schema rfl
      dsimp only
      split
      · refine (ensures_updateSchema learnedStands).bind fun _ => ?_
        exact Ensures.pure fun txn ensured => ensured.1
      · exact Ensures.pure fun txn steady => steady
    · exact Ensures.pure fun txn steady => steady

theorem ensures_generateId (schema : Schema) :
    Ensures (generateId schema) (Steady database store known)
      fun _ txn => txn.Steady database store known :=
  Ensures.modifyGet fun _ steady => steady.draw _

theorem ensures_generateKey :
    Ensures generateKey (Steady database store known)
      fun _ txn => txn.Steady database store known :=
  Ensures.modifyGet fun _ steady => steady.draw _

theorem ensures_chooseKey (named : Named database.registry) (typeName : Option String)
    (value : Value) :
    Ensures (chooseKey database typeName value) (Steady database store known)
      fun _ txn => txn.Steady database store known := by
  unfold chooseKey
  split
  · exact ensures_generateKey
  · rename_i typeName
    refine (ensures_schema named typeName).bind fun schema => ?_
    refine (Ensures.lift.given fun txn ensured => ensured.1.1).bind fun wanted => ?_
    split
    · exact Ensures.pure fun txn ensured => ensured.1
    · exact (ensures_generateId schema).given fun txn ensured => ensured.1

theorem ensures_putKey (named : Named database.registry) (key typeName : Option String)
    (value : Value) :
    Ensures (putKey database key typeName value) (Steady database store known)
      fun _ txn => txn.Steady database store known := by
  unfold putKey
  split
  · exact Ensures.pure fun _ steady => steady
  · exact ensures_chooseKey named typeName value

theorem ensures_copyKey (named : Named database.registry) (destination typeName : Option String) :
    Ensures (copyKey database destination typeName) (Steady database store known)
      fun key txn => txn.Steady database store known ∧ ∀ chosen ∈ destination, key = chosen := by
  unfold copyKey
  split
  · exact Ensures.pure fun txn steady => ⟨steady, fun _ same => Option.some.inj same⟩
  · exact ensures_generateKey.imp fun _ txn steady => ⟨steady, nofun⟩
  · rename_i name
    refine (ensures_schema named name).bind fun schema => ?_
    exact (ensures_generateId schema).weaken (fun txn ensured => ensured.1.1)
      fun _ txn steady => ⟨steady, nofun⟩

theorem ensures_bindIdentity (named : Named database.registry) (key : String)
    (typeName : Option String) (value : Value) :
    Ensures (bindIdentity database key typeName value) (Steady database store known)
      fun _ txn => txn.Steady database store known := by
  unfold bindIdentity
  split
  · exact Ensures.pure fun _ steady => steady
  · rename_i name
    refine (ensures_schema named name).bind fun schema => ?_
    exact Ensures.lift.weaken (fun txn ensured => ensured.1.1) fun _ txn ensured => ensured.1

theorem ensures_rebindIdentity (named : Named database.registry) (key : String)
    (typeName : Option String) (value : Value) :
    Ensures (rebindIdentity database key typeName value) (Steady database store known)
      fun _ txn => txn.Steady database store known := by
  unfold rebindIdentity
  split
  · exact Ensures.pure fun _ steady => steady
  · rename_i name
    refine (ensures_schema named name).bind fun schema => ?_
    exact Ensures.pure fun txn ensured => ensured.1.1

end Write

end RecordIndex
