import RecordIndex.Proofs.Database.Identity

namespace RecordIndex

/-!
# Requests that would lose an identity

A request may ask for a record under a key that is none of its type, or for one
that carries another identity than its key.  Such a request is refused with an
error that tells so, and no other request is.
-/

namespace Error

/-- The error says that a record does not go with its key. -/
def concernsIdentity : Error -> Bool
  | .conflict .. => true
  | .keyType .. => true
  | .identityNotString .. => true
  | _ => false

end Error

/-- The outcome is an error that says that a record does not go with its key. -/
def Refused {Result : Type} (outcome : Except Error Result) : Prop :=
  ∃ cause, outcome = .error cause ∧ cause.concernsIdentity = true

namespace Refused

variable {Result : Type}

theorem error_iff {cause : Error} :
    Refused (.error cause : Except Error Result) ↔ cause.concernsIdentity = true := by
  refine ⟨?_, fun concerns => ⟨cause, rfl, concerns⟩⟩
  rintro ⟨other, same, concerns⟩
  cases same
  exact concerns

theorem not_ok (result : Result) : ¬ Refused (.ok result : Except Error Result) := by
  rintro ⟨cause, same, _⟩
  cases same

end Refused

namespace Database

/-- The value carries another identity than the key. -/
def CarriesOther (database : Database) (name key : String) (value : Value) : Prop :=
  ∃ id, (database.schemaOf name).identity? value = some id ∧ id ≠ .string key

/-- A record of the type cannot be kept under the key with its identity. -/
def Misfits (database : Database) (typeName : Option String) (key : String) (value : Value) :
    Prop :=
  ∃ name ∈ typeName, ¬ Store.IsIdentity name key ∨ database.CarriesOther name key value

/-- The type that a value takes on when it is put under the key. -/
def putType (database : Database) (key : String) (options : PutOptions) : Option String :=
  (options.typeName.or ((database.store.records.get? key).bind StoredRecord.typeName)).or
    (database.typeOfKey? key)

/-- The value carries an identity that cannot be a key. -/
def WantsNoKey (database : Database) (typeName : Option String) (value : Value) : Prop :=
  ∃ name ∈ typeName, ∃ id, (database.schemaOf name).identity? value = some id ∧
    forall key, id ≠ .string key

end Database

namespace Request

/-- The copy is to lie under a key that is none of its type. -/
def CopiesAstray (database : Database) (key : String) (destination : Option String)
    (options : CopyOptions) : Prop :=
  ∃ source, database.store.records.get? key = some source ∧
    StoredRecord.hasVersion options.ifVersion (some source) = true ∧
    ∃ target ∈ destination, ∃ name ∈ source.typeName, ¬ Store.IsIdentity name target

/-- The request asks for a record that does not go with its key.  A value is
put under a key that is given, carried by the value or drawn.  A copy carries
its own key anyway, and a record that is moved to where it is stays there. -/
def Strays (database : Database) : Request -> Prop
  | .put key value options =>
      (key = none ∧ database.WantsNoKey options.typeName value) ∨
        ∃ written txn, (Write.putKey database key options.typeName value).run database.start =
            (.ok written, txn) ∧
          database.Misfits (database.putType written options) written value
  | .patch key changes _ ifVersion =>
      ∃ previous, database.store.records.get? key = some previous ∧
        StoredRecord.hasVersion ifVersion (some previous) = true ∧
        database.Misfits previous.typeName key (changes.mergeOnto previous.value)
  | .copy key destination options => CopiesAstray database key destination options
  | .move key destination options =>
      destination ≠ some key ∧ CopiesAstray database key destination options
  | _ => False

end Request

/-! ## Actions that decline -/

namespace Write

variable {Result Next : Type}

/-- From the states that satisfy `before`, the action is refused exactly if
that is so. -/
def Declines (action : Write Result) (before : Transaction -> Prop) (fact : Prop) : Prop :=
  forall start, before start -> (Refused (action.run start).1 ↔ fact)

namespace Declines

variable {before : Transaction -> Prop} {fact : Prop}

theorem of_succeeds {action : Write Result} (succeeds : Succeeds action) (unlike : ¬ fact) :
    Declines action before fact := by
  intro start _
  rcases succeeds start with ⟨result, final, ran⟩
  rw [ran]
  exact iff_of_false (Refused.not_ok result) unlike

theorem bind {first : Write Result} {next : Result -> Write Next}
    (errors : forall start, before start -> forall cause final,
      first.run start = (.error cause, final) -> (cause.concernsIdentity = true ↔ fact))
    (rest : forall result, Declines (next result)
      (fun final => ∃ start, before start ∧ first.run start = (.ok result, final)) fact) :
    Declines (first >>= next) before fact := by
  intro start isStart
  cases ran : first.run start with
  | mk outcome middle =>
      cases outcome with
      | error cause =>
          rw [run_bind_error ran]
          exact Refused.error_iff.trans (errors start isStart cause middle ran)
      | ok result =>
          rw [run_bind_ok ran]
          exact rest result middle ⟨start, isStart, ran⟩

/-- The first part does not fail. -/
theorem bind_succeeds {first : Write Result} {next : Result -> Write Next}
    {after : Result -> Transaction -> Prop} (succeeds : Succeeds first)
    (ensures : Ensures first before after)
    (rest : forall result, Declines (next result) (after result) fact) :
    Declines (first >>= next) before fact := by
  refine bind (fun start _ cause final fails => ?_) fun result final => ?_
  · rcases succeeds start with ⟨result, final', ran⟩
    cases ran.symm.trans fails
  · rintro ⟨start, isStart, ran⟩
    exact rest result final (ensures start isStart result final ran)

/-- The rest does not fail. -/
theorem andThen {first : Write Result} {next : Result -> Write Next}
    (declines : Declines first before fact) (succeed : forall result, Succeeds (next result)) :
    Declines (first >>= next) before fact := by
  refine bind (fun start isStart cause final fails => ?_) fun result final => ?_
  · rw [← declines start isStart, fails]
    exact Refused.error_iff.symm
  · rintro ⟨start, isStart, ran⟩
    have unlike : ¬ fact := by
      rw [← declines start isStart, ran]
      exact Refused.not_ok result
    have declinesRest : Declines (next result) (fun txn => txn = final) fact :=
      of_succeeds (succeed result) unlike
    exact declinesRest final rfl

theorem lift {outcome : Except Error Result} (same : Refused outcome ↔ fact) :
    Declines (liftM outcome) before fact := by
  intro start _
  rw [← same]
  cases outcome with
  | error cause => rfl
  | ok result => rfl

/-- The first part is an outcome that is already known. -/
theorem bind_lift {outcome : Except Error Result} {next : Result -> Write Next}
    (errors : forall cause, outcome = .error cause -> (cause.concernsIdentity = true ↔ fact))
    (rest : forall result, outcome = .ok result -> Declines (next result) before fact) :
    Declines (liftM outcome >>= next) before fact := by
  cases outcome with
  | error cause => exact fun start _ => Refused.error_iff.trans (errors cause rfl)
  | ok result => exact rest result rfl

/-- A fact that does not depend on the state is brought out of it. -/
theorem assume {action : Write Result} {known : Prop}
    (declines : known -> Declines action before fact) :
    Declines action (fun txn => before txn ∧ known) fact :=
  fun start isStart => declines isStart.2 start isStart.1

theorem congr {action : Write Result} {fact' : Prop} (declines : Declines action before fact')
    (same : fact' ↔ fact) : Declines action before fact :=
  fun start isStart => (declines start isStart).trans same

end Declines

open Database Transaction

variable {database : Database} {store : Store} {known : Option String}

theorem succeeds_record? (key : String) : Succeeds (record? key) :=
  succeeds_get.bind fun _ => .pure _

theorem succeeds_generateId (schema : Schema) : Succeeds (generateId schema) :=
  .modifyGet _

theorem succeeds_copyKey (database : Database) (destination typeName : Option String) :
    Succeeds (copyKey database destination typeName) := by
  unfold copyKey
  split
  · exact .pure _
  · exact .modifyGet _
  · exact (succeeds_schema database _).bind fun schema => succeeds_generateId schema

theorem succeeds_rebindIdentity (database : Database) (key : String) (typeName : Option String)
    (value : Value) : Succeeds (rebindIdentity database key typeName value) := by
  unfold rebindIdentity
  split
  · exact .pure _
  · exact (succeeds_schema database _).bind fun _ => .pure _

end Write

/-! ## The parts of a write that decline -/

namespace Schema

/-- Binding a key fails exactly over another identity. -/
theorem bindIdentity_declines_iff (schema : Schema) (key : String) (value : Value) :
    Refused (schema.bindIdentity key value) ↔
      ∃ id, schema.identity? value = some id ∧ id ≠ .string key := by
  constructor
  · rintro ⟨cause, fails, _⟩
    unfold bindIdentity at fails
    split at fails
    · rename_i id carried
      refine ⟨.string id, carried, fun same => ?_⟩
      rw [if_pos (Value.string.inj same)] at fails
      cases fails
    · rename_i id notString carried
      exact ⟨id, carried, notString key⟩
    · cases fails
  · rintro ⟨id, carried, other⟩
    rcases bindIdentity_refuses carried other with ⟨text, fails⟩
    exact ⟨_, fails, rfl⟩

/-- What is drawn for a type is an identity of the type. -/
theorem isIdentity_generateId (schema : Schema) (supply : IdSupply) :
    Store.IsIdentity schema.typeName (schema.generateId supply).1 := by
  refine ⟨(supply.draw schema.generator).1.toList, ?_⟩
  unfold Store.typePrefix generateId
  rw [← String.toList_append]

end Schema

namespace Database.StandsFor

/-- Values carry the same identities under both schemas. -/
theorem identity?_eq {database : Database} {typeName : String} {schema : Schema}
    (stands : database.StandsFor typeName schema) (value : Value) :
    schema.identity? value = (database.schemaOf typeName).identity? value := by
  unfold Schema.identity?
  rw [stands.2.2]

end Database.StandsFor

namespace Write

open Database Transaction

variable {database : Database} {store : Store} {known : Option String}

theorem checkPlace_eq_ok_iff (key : String) (typeName : Option String) :
    checkPlace key typeName = .ok () ↔ ∀ name ∈ typeName, Store.IsIdentity name key := by
  cases typeName with
  | none => exact ⟨fun _ => nofun, fun _ => rfl⟩
  | some name =>
      refine (Store.isPlaced_iff key name).trans ⟨fun isIdentity => ?_, fun all => all name rfl⟩
      rintro other same
      cases same
      exact isIdentity

/-- A place is refused over the key only. -/
theorem checkPlace_error {key : String} {typeName : Option String} {cause : Error}
    (fails : checkPlace key typeName = .error cause) :
    cause.concernsIdentity = true ∧ ∃ name ∈ typeName, ¬ Store.IsIdentity name key := by
  cases typeName with
  | none => cases fails
  | some name =>
      refine ⟨?_, name, rfl, fun isIdentity => ?_⟩
      · unfold checkPlace checkKeyType at fails
        dsimp only at fails
        split at fails
        · cases fails
        · cases fails
          rfl
      · cases ((Store.isPlaced_iff key name).mpr isIdentity).symm.trans fails

theorem declines_bindIdentity (named : Named database.registry) (key : String)
    (typeName : Option String) (value : Value) :
    Declines (bindIdentity database key typeName value) (Steady database store known)
      (∃ name ∈ typeName, database.CarriesOther name key value) := by
  unfold bindIdentity
  split
  · refine Declines.of_succeeds (.pure _) ?_
    rintro ⟨name, same, _⟩
    cases same
  · rename_i name
    refine Declines.bind_succeeds (succeeds_schema database name) (ensures_schema named name)
      fun schema => Declines.assume fun stands => Declines.lift ?_
    rw [schema.bindIdentity_declines_iff key value, stands.identity?_eq value]
    refine ⟨fun carries => ⟨name, rfl, carries⟩, ?_⟩
    rintro ⟨other, same, carries⟩
    cases same
    exact carries

/-- Where a value of a type may lie, only its identity can be wrong. -/
theorem misfits_iff {key : String} {typeName : Option String}
    (isPlaced : checkPlace key typeName = .ok ()) (value : Value) :
    (∃ name ∈ typeName, database.CarriesOther name key value) ↔
      database.Misfits typeName key value := by
  constructor
  · rintro ⟨name, isType, carries⟩
    exact ⟨name, isType, .inr carries⟩
  · rintro ⟨name, isType, elsewhere | carries⟩
    · exact absurd ((checkPlace_eq_ok_iff key typeName).mp isPlaced name isType) elsewhere
    · exact ⟨name, isType, carries⟩

/-- The key of a value that is put is found, unless the value wants what is no
key. -/
theorem putKey_cases (named : Named database.registry) (key typeName : Option String)
    (value : Value) {start : Transaction} (steady : start.Steady database store known) :
    (∃ written final, (putKey database key typeName value).run start = (.ok written, final) ∧
        ¬ (key = none ∧ database.WantsNoKey typeName value)) ∨
      ∃ cause final, (putKey database key typeName value).run start = (.error cause, final) ∧
        cause.concernsIdentity = true ∧ key = none ∧ database.WantsNoKey typeName value := by
  unfold putKey
  split
  · rename_i key
    refine .inl ⟨key, start, rfl, ?_⟩
    rintro ⟨isNone, _⟩
    cases isNone
  · unfold chooseKey
    split
    · refine .inl ⟨_, _, rfl, ?_⟩
      rintro ⟨_, _, isType, _⟩
      cases isType
    · rename_i name
      rcases succeeds_schema database name start with ⟨schema, middle, ran⟩
      have stands := (ensures_schema named name start steady schema middle ran).2
      rw [run_bind_ok ran]
      have wants (id : Value) (carried : schema.identity? value = some id)
          (noKey : forall key, id ≠ .string key) : database.WantsNoKey (some name) value :=
        ⟨name, rfl, id, (stands.identity?_eq value).symm.trans carried, noKey⟩
      have wantsKey (wanted : database.WantsNoKey (some name) value) :
          ∃ id, schema.identity? value = some id ∧ forall key, id ≠ .string key := by
        rcases wanted with ⟨_, same, id, carried, noKey⟩
        cases same
        exact ⟨id, (stands.identity?_eq value).trans carried, noKey⟩
      unfold Schema.wantedKey
      split
      · rename_i id carried
        refine .inl ⟨id, middle, rfl, fun wanted => ?_⟩
        rcases wantsKey wanted.2 with ⟨other, carried', noKey⟩
        cases carried.symm.trans carried'
        exact noKey id rfl
      · rename_i id notString carried
        exact .inr ⟨.identityNotString id, middle, rfl, rfl, rfl, wants id carried notString⟩
      · rename_i carried
        refine .inl ⟨_, _, rfl, fun wanted => ?_⟩
        rcases wantsKey wanted.2 with ⟨other, carried', _⟩
        cases carried.symm.trans carried'

/-- Once its key is found, a value is out of place under this key or not at
all. -/
theorem misfits_iff_strays (named : Named database.registry) {key : Option String}
    {value : Value} {options : PutOptions} {written : String} {middle : Transaction}
    (ran : (putKey database key options.typeName value).run database.start =
      (.ok written, middle)) :
    database.Misfits (database.putType written options) written value ↔
      (Request.put key value options).Strays database := by
  refine ⟨fun misfits => .inr ⟨written, middle, ran, misfits⟩, ?_⟩
  rintro (wants | ⟨other, txn, ran', misfits⟩)
  · rcases putKey_cases named key options.typeName value database.steady_start with
      ⟨_, _, _, unlike⟩ | ⟨_, _, fails, _⟩
    · exact absurd wants unlike
    · cases ran.symm.trans fails
  · cases ran.symm.trans ran'
    exact misfits

theorem declines_pendingPut (named : Named database.registry) (key : Option String)
    (value : Value) (options : PutOptions) :
    Declines (pendingPut database key value options) (fun txn => txn = database.start)
      ((Request.put key value options).Strays database) := by
  unfold pendingPut
  refine Declines.bind ?_ fun written => ?_
  · rintro start rfl cause final fails
    rcases putKey_cases named key options.typeName value database.steady_start with
      ⟨written, middle, ran, _⟩ | ⟨cause', middle, ran, concerns, wants⟩
    · cases ran.symm.trans fails
    · cases ran.symm.trans fails
      exact ⟨fun _ => .inl wants, fun _ => concerns⟩
  · rintro middle ⟨start, rfl, ran⟩
    have steady := ensures_putKey named key options.typeName value database.start
      database.steady_start written middle ran
    refine Declines.congr ?_ (misfits_iff_strays named ran) middle steady
    refine Declines.bind_succeeds (succeeds_record? written) (ensures_record? written)
      fun previous => Declines.assume fun isPrevious => ?_
    subst isPrevious
    refine Declines.bind_lift (fun cause fails => ?_) fun _ isPlaced => ?_
    · rcases checkPlace_error fails with ⟨concerns, name, isType, elsewhere⟩
      exact ⟨fun _ => ⟨name, isType, .inl elsewhere⟩, fun _ => concerns⟩
    · refine ((declines_bindIdentity named written _ value).andThen fun bound => ?_).congr
        (misfits_iff isPlaced value)
      split
      · exact .pure _
      · exact .pure _

/-- What is done to a record of a wanted version declines over this record
only. -/
theorem declines_ofVersion {Result : Type} (key : String) (ifVersion : Option Nat)
    {rest : StoredRecord -> Write (Option Result)} {fact : StoredRecord -> Prop}
    (declines : forall record, store.records.get? key = some record ->
      Declines (rest record) (Steady database store known) (fact record)) :
    Declines (do
      match ← record? key with
      | none => return none
      | some record =>
          if StoredRecord.hasVersion ifVersion (some record) then rest record
          else return none)
      (Steady database store known)
      (∃ record, store.records.get? key = some record ∧
        StoredRecord.hasVersion ifVersion (some record) = true ∧ fact record) := by
  refine Declines.bind_succeeds (succeeds_record? key) (ensures_record? key) fun found =>
    Declines.assume fun isFound => ?_
  split
  · refine Declines.of_succeeds (.pure _) ?_
    rintro ⟨record, isRecord, _⟩
    cases isFound.trans isRecord
  · rename_i record
    split
    · rename_i hasVersion
      refine (declines record isFound.symm).congr
        ⟨fun holds => ⟨record, isFound.symm, hasVersion, holds⟩, ?_⟩
      rintro ⟨other, isRecord, _, holds⟩
      cases isFound.trans isRecord
      exact holds
    · rename_i lacks
      refine Declines.of_succeeds (.pure _) ?_
      rintro ⟨other, isRecord, hasVersion, _⟩
      cases isFound.trans isRecord
      exact lacks hasVersion

theorem declines_pendingPatch (named : Named database.registry) (key : String) (changes : Value)
    (version ifVersion : Option Nat)
    (isPlaced : ∀ record ∈ database.store.records.get? key,
      checkPlace key record.typeName = .ok ()) :
    Declines (pendingPatch database key changes version ifVersion)
      (Steady database database.store none)
      ((Request.patch key changes version ifVersion).Strays database) := by
  refine declines_ofVersion key ifVersion fun previous isPrevious => ?_
  refine ((declines_bindIdentity named key previous.typeName _).andThen fun bound => .pure _).congr
    (misfits_iff (isPlaced previous isPrevious) _)

/-- A place that is given or drawn for a copy. -/
theorem ensures_copyKey_placed (named : Named database.registry)
    (destination typeName : Option String) :
    Ensures (copyKey database destination typeName) (Steady database store known)
      fun key txn => txn.Steady database store known ∧
        ((∃ name ∈ typeName, ¬ Store.IsIdentity name key) ↔
          ∃ target ∈ destination, ∃ name ∈ typeName, ¬ Store.IsIdentity name target) := by
  unfold copyKey
  split
  · rename_i target
    refine Ensures.pure fun txn steady => ⟨steady, fun elsewhere => ⟨target, rfl, elsewhere⟩, ?_⟩
    rintro ⟨_, same, elsewhere⟩
    cases same
    exact elsewhere
  · refine ensures_generateKey.imp fun key txn steady => ⟨steady, ?_⟩
    refine iff_of_false ?_ ?_
    · rintro ⟨_, isType, _⟩
      cases isType
    · rintro ⟨_, isTarget, _⟩
      cases isTarget
  · rename_i name
    refine (ensures_schema named name).bind fun schema => Ensures.assume fun stands => ?_
    refine Ensures.modifyGet fun txn ensured => ⟨ensured.1.draw _, iff_of_false ?_ ?_⟩
    · rintro ⟨other, isType, elsewhere⟩
      cases isType
      refine elsewhere ?_
      have isName : schema.typeName = name := stands.1
      rw [← isName]
      exact schema.isIdentity_generateId txn.supply
    · rintro ⟨_, isTarget, _⟩
      cases isTarget

theorem declines_pendingCopy (named : Named database.registry) (key : String)
    (destination : Option String) (options : CopyOptions) :
    Declines (pendingCopy database key destination options) (Steady database database.store none)
      (Request.CopiesAstray database key destination options) := by
  refine declines_ofVersion key options.ifVersion fun source _ => ?_
  refine Declines.bind_succeeds (succeeds_copyKey database destination source.typeName)
    (ensures_copyKey_placed named destination source.typeName) fun target =>
      Declines.assume fun elsewhere => Declines.congr ?_ elsewhere
  refine Declines.bind_lift (fun cause fails => ?_) fun _ isPlaced => ?_
  · rcases checkPlace_error fails with ⟨concerns, elsewhere⟩
    exact ⟨fun _ => elsewhere, fun _ => concerns⟩
  · have unlike : ¬ ∃ name ∈ source.typeName, ¬ Store.IsIdentity name target := by
      rintro ⟨name, isType, elsewhere⟩
      exact elsewhere ((checkPlace_eq_ok_iff target source.typeName).mp isPlaced name isType)
    refine Declines.bind_succeeds (succeeds_record? target) (ensures_record? target)
      fun previous => ?_
    refine Declines.bind_lift (fun cause fails => ?_) fun _ _ => ?_
    · -- That something lies there is another matter.
      unfold checkVacant at fails
      split at fails
      · cases fails
        exact iff_of_false Bool.false_ne_true unlike
      · cases fails
    · refine Declines.of_succeeds ?_ unlike
      exact (succeeds_rebindIdentity database target _ _).bind fun bound => .pure _

/-! ## Whole writes -/

theorem declines_put (named : Named database.registry) (key : Option String) (value : Value)
    (options : PutOptions) :
    Declines (put database key value options) (fun txn => txn = database.start)
      ((Request.put key value options).Strays database) := by
  unfold put
  refine (declines_pendingPut named key value options).andThen fun pending => ?_
  split
  · exact .pure _
  · exact (succeeds_putRecord database _).bind fun _ => .pure _

theorem declines_patch (named : Named database.registry) (key : String) (changes : Value)
    (version ifVersion : Option Nat)
    (isPlaced : ∀ record ∈ database.store.records.get? key,
      checkPlace key record.typeName = .ok ()) :
    Declines (patch database key changes version ifVersion)
      (Steady database database.store none)
      ((Request.patch key changes version ifVersion).Strays database) := by
  unfold patch
  refine (declines_pendingPatch named key changes version ifVersion isPlaced).andThen
    fun pending => ?_
  split
  · exact .pure _
  · exact (succeeds_putRecord database _).bind fun _ => .pure _

theorem succeeds_remove (database : Database) (key : String) (ifVersion : Option Nat) :
    Succeeds (remove database key ifVersion) := by
  unfold remove
  refine (succeeds_record? key).bind fun previous => ?_
  split
  · exact .pure _
  · split
    · exact (succeeds_removeRecord database key _).bind fun _ => .pure _
    · exact .pure _

theorem declines_copyRecord (named : Named database.registry) (key : String)
    (destination : Option String) (options : CopyOptions) :
    Declines (copyRecord database key destination options) (Steady database database.store none)
      (Request.CopiesAstray database key destination options) := by
  unfold copyRecord
  refine (declines_pendingCopy named key destination options).andThen fun copied => ?_
  split
  · exact .pure _
  · exact (succeeds_putRecord database _).bind fun _ => .pure _

theorem declines_copy (named : Named database.registry) (key : String)
    (destination : Option String) (options : CopyOptions) :
    Declines (copy database key destination options) (Steady database database.store none)
      (Request.CopiesAstray database key destination options) :=
  (declines_copyRecord named key destination options).andThen fun _ => .pure _

theorem declines_move (named : Named database.registry) (key : String)
    (destination : Option String) (options : CopyOptions) :
    Declines (move database key destination options) (Steady database database.store none)
      (Request.CopiesAstray database key destination options) := by
  unfold move
  refine (declines_copyRecord named key destination options).andThen fun copied => ?_
  split
  · exact .pure _
  · exact (succeeds_removeRecord database key _).bind fun _ => .pure _

theorem succeeds_defineSchema (database : Database) (schema : Schema) :
    Succeeds (defineSchema database schema) := by
  unfold defineSchema
  refine (Succeeds.modifyGet _).bind fun _ => ?_
  split
  · split
    · exact .modifyGet _
    · exact .pure _
  · exact .pure _

end Write

/-! ## Identities in every reachable database -/

namespace Refused

variable {Result Other : Type}

theorem map_iff (make : Result -> Other) (outcome : Except Error Result) :
    Refused (outcome.map make) ↔ Refused outcome := by
  cases outcome with
  | error cause => exact error_iff.trans error_iff.symm
  | ok result => exact iff_of_false (not_ok (make result)) (not_ok result)

/-- What is refused is refused by the first part or by the rest. -/
theorem of_bind {outcome : Except Error Result} {next : Result -> Except Error Other}
    (refused : Refused (outcome >>= next)) :
    Refused outcome ∨ ∃ result, Refused (next result) := by
  cases outcome with
  | error cause => exact .inl (error_iff.mpr (error_iff.mp refused))
  | ok result => exact .inr ⟨result, refused⟩

/-- What a write is answered is what its action comes to. -/
theorem write_iff (database : Database) (action : Write Result) :
    Refused (database.write action).1 ↔ Refused (action.run database.start).1 := by
  rcases database.write_cases action with ⟨cause, txn, ran, isWrite⟩ | ⟨result, txn, ran, isWrite⟩
  · rw [isWrite, ran]
  · rw [isWrite, ran]

end Refused

namespace Database

/-- A store is opened or not for other reasons. -/
theorem not_refused_openStore (config : Config) (store : Store) (supply : IdSupply) :
    ¬ Refused (openStore config store supply) := by
  have settles (setting : String × String) (store : Store) : ¬ Refused (settle store setting) := by
    unfold settle
    split
    · split
      · exact Refused.not_ok _
      · exact fun refused => Bool.false_ne_true (Refused.error_iff.mp refused)
    · exact Refused.not_ok _
  have settlesAll (settings : List (String × String)) (store : Store) :
      ¬ Refused (settings.foldlM settle store) := by
    induction settings generalizing store with
    | nil => exact Refused.not_ok store
    | cons first rest ih =>
        rw [List.foldlM_cons]
        intro refused
        rcases refused.of_bind with atFirst | ⟨store', later⟩
        · exact settles first store atFirst
        · exact ih store' later
  intro refused
  rcases refused.of_bind with invalid | ⟨_, later⟩
  · unfold Config.validate at invalid
    split at invalid
    · exact Bool.false_ne_true (Refused.error_iff.mp invalid)
    · exact Refused.not_ok _ invalid
  · rcases later.of_bind with unsettled | ⟨_, last⟩
    · exact settlesAll _ store unsettled
    · exact Refused.not_ok _ last

/-- Vectors are made anew or not for other reasons. -/
theorem not_refused_reindexVectors (database : Database) (typeName : String) :
    ¬ Refused (database.reindexVectors typeName).1 := by
  have noSchema : ¬ Refused (database.vectorSchema (some typeName)) := by
    unfold vectorSchema
    split
    · exact fun refused => Bool.false_ne_true (Refused.error_iff.mp refused)
    · dsimp only
      split
      · exact Refused.not_ok _
      · exact fun refused => Bool.false_ne_true (Refused.error_iff.mp refused)
  unfold reindexVectors
  split
  · rename_i cause isSchema
    rw [isSchema, Refused.error_iff] at noSchema
    exact fun refused => noSchema (Refused.error_iff.mp refused)
  · exact fun refused => Bool.false_ne_true (Refused.error_iff.mp refused)
  · exact Refused.not_ok _

end Database

namespace Request

variable {database : Database}

/-- A request is refused over an identity exactly if it asks for a record that
does not go with its key. -/
theorem refused_iff (orderly : database.Orderly) (request : Request) :
    Refused (request.answer database) ↔ request.Strays database := by
  have steady := database.steady_start
  cases request with
  | reopen config supply =>
      refine (Refused.map_iff _ _).trans (iff_of_false ?_ id)
      exact Database.not_refused_openStore config database.store supply
  | put key value options =>
      refine (Refused.map_iff _ _).trans ((Refused.write_iff database _).trans ?_)
      exact Write.declines_put orderly.named key value options _ rfl
  | patch key changes version ifVersion =>
      refine (Refused.write_iff database _).trans ?_
      refine Write.declines_patch orderly.named key changes version ifVersion ?_ _ steady
      exact orderly.isPlaced key
  | remove key ifVersion =>
      refine (Refused.map_iff _ _).trans ((Refused.write_iff database _).trans ?_)
      exact Write.Declines.of_succeeds (Write.succeeds_remove database key ifVersion) id _ steady
  | copy key destination options =>
      refine (Refused.map_iff _ _).trans ((Refused.write_iff database _).trans ?_)
      exact Write.declines_copy orderly.named key destination options _ steady
  | move key destination options =>
      rw [answer_move]
      refine (Refused.map_iff _ _).trans ?_
      unfold Database.move
      split
      · rename_i inPlace
        exact iff_of_false (Refused.not_ok _) fun strays => strays.1 inPlace
      · rename_i elsewhere
        refine (Refused.write_iff database _).trans ?_
        refine (Write.declines_move orderly.named key destination options _ steady).trans ?_
        exact ⟨fun astray => ⟨elsewhere, astray⟩, fun strays => strays.2⟩
  | defineSchema typeName options =>
      refine (Refused.map_iff _ _).trans ((Refused.map_iff _ _).trans
        ((Refused.write_iff database _).trans ?_))
      exact Write.Declines.of_succeeds (Write.succeeds_defineSchema database _) id _ steady
  | getSchema typeName create => exact iff_of_false (Refused.not_ok _) id
  | reindexVectors typeName =>
      refine (Refused.map_iff _ _).trans (iff_of_false ?_ id)
      exact database.not_refused_reindexVectors typeName
  | newGenerator nth => exact iff_of_false (Refused.not_ok _) id

end Request

namespace Database

variable {database : Database}

/-- When identities are kept, every record of a type lies under a key of the
type and carries it, and the requests that ask for anything else are those that
are refused over an identity. -/
theorem identities_kept
    (reachable : Reachable (fun database request => request.KeepsIdentities database) database) :
    database.Identified ∧ forall request : Request,
      Refused (request.answer database) ↔ request.Strays database :=
  ⟨identified_of_reachable reachable,
    Request.refused_iff (orderly_of_reachable reachable)⟩

/-- The first record carries its key, and is not copied to a key of another
type. -/
theorem identities_kept_firstPut :
    (blank.after firstPut).Identified ∧
      Refused ((Request.copy "P@1" (some "Q@1") {}).answer (blank.after firstPut)) := by
  have isType (name : String)
      (registered : ((blank.after firstPut).registry.get? name).isSome) :
      Schema.IsProperName name := by
    rcases Option.isSome_iff_exists.mp registered with ⟨schema, found⟩
    rw [Table.get?_eq_some_iff, registry_after_firstPut, List.mem_singleton] at found
    cases found
    rfl
  have keeps : firstPut.KeepsIdentities blank := ⟨isType, nofun⟩
  have kept := identities_kept (.step (.opened openStore_blank) keeps)
  refine ⟨kept.1, (kept.2 _).mpr ?_⟩
  refine ⟨john, found_firstPut, rfl, "Q@1", rfl, "P", rfl, ?_⟩
  unfold Store.IsIdentity
  decide

end Database

end RecordIndex
