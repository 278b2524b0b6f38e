import RecordIndex.Proofs.Database.Declined
import RecordIndex.Proofs.Database.Origins
import RecordIndex.Proofs.Text.Tokens

namespace RecordIndex

/-!
# The identity of records

A record that is bound to a type lies under a key of the type, and if it is an
object it carries that key in the identity property of the type.  Each write
sees to this in its own way: a put and a patch give the key to what has none
and refuse another one, a copy replaces whatever was carried by its own key.
The key survives being stored, since the keys of a type do not begin with an at
sign, as all tags do.
-/

/-- A name that a type can have: it is not empty and does not begin with an at
sign. -/
def Schema.IsProperName (name : String) : Prop :=
  name.toList.head?.any fun c => c != '@'

/-- A key of a type stands for itself. -/
theorem Store.IsIdentity.decodeString_eq {typeName key : String}
    (proper : Schema.IsProperName typeName) (isIdentity : IsIdentity typeName key) :
    Value.decodeString key = .string key := by
  refine Value.decodeString_of_opensQuietly (Words.opensQuietly_of_head fun opens => ?_)
  unfold Schema.IsProperName at proper
  rcases isIdentity with ⟨rest, isKey⟩
  cases isName : typeName.toList with
  | nil =>
      rw [isName] at proper
      cases proper
  | cons c others =>
      rw [typePrefix, String.toList_append, isName] at isKey
      rw [isName] at proper
      rw [← isKey] at opens
      cases opens
      exact absurd proper Bool.false_ne_true

namespace Value

/-- A text under a name is read back as what it stands for. -/
theorem get?_decodeFields (keepUndefined : Bool) {fields : List (String × Value)}
    {name text : String} (found : Rows.get? name fields = some (.string text)) :
    Rows.get? name (decodeFields (encodeFields keepUndefined fields)) =
      some (decodeString text) := by
  induction fields with
  | nil => cases found
  | cons first rest ih =>
      rcases first with ⟨other, value⟩
      by_cases same : name = other
      · subst same
        rw [Rows.get?_cons_self] at found
        cases found
        exact Rows.get?_cons_self name (decodeString text) _
      · rw [Rows.get?_cons_of_ne same] at found
        rw [encodeFields]
        split
        · exact ih found
        · rw [decodeFields, Rows.get?_cons_of_ne same, ih found]

/-- Only an object is read back as an object. -/
theorem isObject_of_decode_encode {keepUndefined : Bool} {value : Value}
    (isObject : (decode (value.encode keepUndefined)).isObject = true) :
    value.isObject = true := by
  have notTagged (text : String) : (decodeString text).isObject = false := by
    have notContainer := isContainer_decodeString text
    cases isValue : decodeString text with
    | object fields =>
        rw [isValue] at notContainer
        cases notContainer
    | _ => rfl
  cases value with
  | object fields => rfl
  | string text => exact (notTagged text).symm.trans isObject
  | number n =>
      change (decode (encodeNumber n)).isObject = true at isObject
      rw [decode_encodeNumber] at isObject
      cases isObject
  | date millis => exact (notTagged _).symm.trans isObject
  | regExp source flags => exact (notTagged _).symm.trans isObject
  | symbol name => exact (notTagged _).symm.trans isObject
  | undefined => exact (notTagged _).symm.trans isObject
  | _ => cases isObject

end Value

/-! ## Carrying a key -/

namespace Schema

variable {schema : Schema} {key : String} {value : Value}

/-- An object carries the key as its identity. -/
def Carries (schema : Schema) (key : String) (value : Value) : Prop :=
  value.isObject = true -> schema.identity? value = some (.string key)

/-- Which property holds identities is all that matters to them. -/
theorem Carries.congr {other : Schema} (carries : schema.Carries key value)
    (same : other.idProperty = schema.idProperty) : other.Carries key value := by
  intro isObject
  have found := carries isObject
  unfold identity? at found ⊢
  rw [same]
  exact found

theorem carries_setField (schema : Schema) (key : String) (value : Value) :
    schema.Carries key (value.setField schema.idProperty (.string key)) := by
  intro isObject
  cases value with
  | object fields =>
      change (Rows.get? schema.idProperty (Rows.insert schema.idProperty (.string key)
        fields)).filter _ = _
      rw [Rows.get?_insert_self]
      rfl
  | _ => cases isObject

/-- What a key has been bound to carries it. -/
theorem carries_of_bindIdentity {bound : Value}
    (isBound : schema.bindIdentity key value = .ok bound) : schema.Carries key bound := by
  unfold bindIdentity at isBound
  split at isBound
  · rename_i id found
    split at isBound
    · rename_i same
      cases isBound
      exact fun _ => same ▸ found
    · cases isBound
  · cases isBound
  · cases isBound
    exact schema.carries_setField key value

/-- Another identity is not overwritten. -/
theorem bindIdentity_refuses {id : Value} (carried : schema.identity? value = some id)
    (other : id ≠ .string key) :
    ∃ text, schema.bindIdentity key value = .error (.conflict key text) := by
  unfold bindIdentity
  rw [carried]
  split
  · rename_i text isText
    cases isText
    exact ⟨text, if_neg fun same => other (congrArg Value.string same)⟩
  · rename_i isId
    cases isId
    exact ⟨_, rfl⟩
  · rename_i isNone
    cases isNone

/-- What carries a key does so when it is read back, if the key stands for
itself. -/
theorem Carries.decode_encode (carries : schema.Carries key value)
    (plain : Value.decodeString key = .string key) (keepUndefined : Bool) :
    schema.Carries key (Value.decode (value.encode keepUndefined)) := by
  intro isObject
  have found := carries (Value.isObject_of_decode_encode isObject)
  cases value with
  | object fields =>
      rcases Option.filter_eq_some_iff.mp found with ⟨isField, _⟩
      change (Rows.get? schema.idProperty (Value.decodeFields (Value.encodeFields keepUndefined
        fields))).filter _ = _
      rw [Value.get?_decodeFields keepUndefined isField, plain]
      rfl
  | _ => cases found

end Schema

namespace PendingRecord

/-- The record carries its key under its type. -/
def IsIdentified (database : Database) (pending : PendingRecord) : Prop :=
  ∀ name ∈ pending.typeName, (database.schemaOf name).Carries pending.key pending.value

end PendingRecord

namespace Write

open Database Transaction

variable {database : Database} {store : Store} {known : Option String}

/-- A value that is bound to a key carries it. -/
theorem ensures_bindIdentity_carries (named : Named database.registry) (key : String)
    (typeName : Option String) (value : Value) :
    Ensures (bindIdentity database key typeName value) (Steady database store known)
      fun bound _ => ∀ name ∈ typeName, (database.schemaOf name).Carries key bound := by
  unfold bindIdentity
  split
  · exact Ensures.pure fun _ _ => nofun
  · rename_i name
    refine (ensures_schema named name).bind fun schema => Ensures.assume fun stands => ?_
    refine Ensures.lift.imp fun bound txn ensured other isName => ?_
    cases isName
    exact (Schema.carries_of_bindIdentity ensured.2).congr stands.2.2.symm

theorem ensures_rebindIdentity_carries (named : Named database.registry) (key : String)
    (typeName : Option String) (value : Value) :
    Ensures (rebindIdentity database key typeName value) (Steady database store known)
      fun bound _ => ∀ name ∈ typeName, (database.schemaOf name).Carries key bound := by
  unfold rebindIdentity
  split
  · exact Ensures.pure fun _ _ => nofun
  · rename_i name
    refine (ensures_schema named name).bind fun schema => Ensures.assume fun stands => ?_
    refine Ensures.pure fun txn _ other isName => ?_
    cases isName
    exact (schema.carries_setField key value).congr stands.2.2.symm

theorem ensures_pendingPut_identified (named : Named database.registry) (key : Option String)
    (value : Value) (options : PutOptions) :
    Ensures (pendingPut database key value options) (Steady database store known)
      fun result _ => ∀ pending ∈ result, pending.IsIdentified database := by
  unfold pendingPut
  refine (ensures_putKey named key options.typeName value).bind fun key => ?_
  refine (ensures_record? key).bind fun previous => Ensures.assume fun _ => ?_
  refine Ensures.lift.bind fun _ => Ensures.assume fun _ => ?_
  refine (ensures_bindIdentity_carries named key _ value).bind fun bound => ?_
  split
  · refine Ensures.pure fun _ carries pending isPending => ?_
    cases isPending
    exact carries
  · exact Ensures.pure fun _ _ => nofun

theorem ensures_pendingPatch_identified (named : Named database.registry) (key : String)
    (changes : Value) (version ifVersion : Option Nat) :
    Ensures (pendingPatch database key changes version ifVersion) (Steady database store known)
      fun result _ => ∀ pending ∈ result, pending.IsIdentified database := by
  refine ensures_ofVersion key ifVersion (fun _ _ => nofun) fun previous _ _ => ?_
  refine (ensures_bindIdentity_carries named key previous.typeName _).bind fun bound => ?_
  refine Ensures.pure fun _ carries pending isPending => ?_
  cases isPending
  exact carries

theorem ensures_pendingCopy_identified (named : Named database.registry) (key : String)
    (destination : Option String) (options : CopyOptions) :
    Ensures (pendingCopy database key destination options) (Steady database store known)
      fun result _ => ∀ copied ∈ result, copied.1.IsIdentified database := by
  refine ensures_ofVersion key options.ifVersion (fun _ _ => nofun) fun source _ _ => ?_
  refine (ensures_copyKey named destination source.typeName).bind fun target => ?_
  refine Ensures.assume fun _ => Ensures.lift.bind fun _ => Ensures.assume fun _ => ?_
  refine (ensures_record? target).bind fun previous => Ensures.assume fun _ => ?_
  refine Ensures.lift.bind fun _ => Ensures.assume fun _ => ?_
  refine (ensures_rebindIdentity_carries named target source.typeName source.value).bind
    fun bound => ?_
  refine Ensures.pure fun _ carries copied isCopied => ?_
  cases isCopied
  exact carries

end Write

/-- Whatever a request stores carries its key. -/
theorem Request.isIdentified_of_stores {database : Database}
    (named : Database.Named database.registry) {request : Request} {pending : PendingRecord}
    (stores : request.Stores database pending) : pending.IsIdentified database := by
  rcases stores with ⟨final, ran⟩
  have steady := database.steady_start
  have ofCopy (key : String) (destination : Option String) (options : CopyOptions)
      (ran : (Option.map Prod.fst <$> Write.pendingCopy database key destination options).run
        database.start = (.ok (some pending), final)) : pending.IsIdentified database := by
    have copies : Write.Ensures
        (Option.map Prod.fst <$> Write.pendingCopy database key destination options)
        (Transaction.Steady database database.store none)
        fun result _ => ∀ pending ∈ result, pending.IsIdentified database := by
      refine Write.Ensures.map ((Write.ensures_pendingCopy_identified named key destination
        options).imp fun copied _ all pending isPending => ?_)
      rcases Option.map_eq_some_iff.mp isPending with ⟨copy, isCopied, rfl⟩
      exact all copy isCopied
    exact copies _ steady _ _ ran pending rfl
  cases request with
  | put key value options =>
      exact Write.ensures_pendingPut_identified named key value options _ steady _ _ ran pending rfl
  | patch key changes version ifVersion =>
      exact Write.ensures_pendingPatch_identified named key changes version ifVersion _ steady _ _
        ran pending rfl
  | copy key destination options => exact ofCopy key destination options ran
  | move key destination options => exact ofCopy key destination options ran
  | _ => cases ran

namespace Database

variable {database : Database}

/-! ## Identity properties -/

theorem typeName_resolve {registry : Registry} (named : Named registry) (typeName : String)
    (options : SchemaOptions) : (registry.resolve typeName options).typeName = typeName := by
  change (registry.base typeName options.parent).typeName = typeName
  unfold Registry.base
  split
  · rename_i schema found
    exact named typeName schema found
  · split
    all_goals rfl

/-- No request changes the identity property of a type, unless it defines the
schema of the type. -/
theorem idProperty_of_step (orderly : database.Orderly) {request : Request} {later : Database}
    (step : Step database request later) (name : String) :
    (later.schemaOf name).idProperty = (database.schemaOf name).idProperty ∨
      ∃ options, request = .defineSchema name options ∧
        later.schemaOf name = database.registry.resolve name options := by
  cases step with
  | supplied supply => exact .inl rfl
  | committed leads =>
      rcases leads with ⟨store, known, outcome, steady⟩
      exact .inl (schemaOf_commit steady name).2
  | @defined schema defines =>
      rw [schemaOf_withSchema]
      by_cases same : name = schema.typeName
      · rw [if_pos same]
        cases request with
        | defineSchema typeName options =>
            cases defines
            rw [typeName_resolve orderly.named] at same
            subst same
            exact .inr ⟨options, rfl, rfl⟩
        | getSchema typeName create =>
            rcases defines with ⟨unknown, rfl⟩
            change name = typeName at same
            subst same
            unfold schemaOf
            rw [unknown]
            exact .inl rfl
        | _ => cases defines
      · rw [if_neg same]
        exact .inl rfl
  | vectors vectors => exact .inl rfl
  | reopened opened =>
      rw [schemaOf_reopened orderly opened]
      exact .inl rfl

end Database

/-! ## What every request keeps -/

namespace Request

/-- All types have proper names, and a definition does not change the identity
property of a type that has records. -/
structure KeepsIdentities (database : Database) (request : Request) : Prop where
  properNames : forall name, ((database.after request).registry.get? name).isSome ->
    Schema.IsProperName name
  keepsProperty : forall typeName options, request = .defineSchema typeName options ->
    forall key record, database.store.records.get? key = some record ->
      record.typeName = some typeName ->
        (database.registry.resolve typeName options).idProperty =
          (database.schemaOf typeName).idProperty

end Request

namespace Database

variable {database : Database}

/-- Every record of a type lies under a key of the type, and carries this key
if it is an object. -/
def Identified (database : Database) : Prop :=
  forall key record, database.store.records.get? key = some record ->
    ∀ name ∈ record.typeName, Store.IsIdentity name key ∧
      (database.schemaOf name).Carries key record.value

theorem isIdentity_of_kept {registry : Registry} {key name : String} {record : StoredRecord}
    (kept : record.Kept registry key) (isTyped : name ∈ record.typeName) :
    Store.IsIdentity name key := by
  have isPlaced := kept.isPlaced
  rw [isTyped] at isPlaced
  exact (Store.isPlaced_iff key name).mp isPlaced

theorem Identified.step (identified : database.Identified) (orderly : database.Orderly)
    {request : Request} (keeps : request.KeepsIdentities database) :
    (database.after request).Identified := by
  intro key record found name isTyped
  have step := orderly.step_after request
  have kept := (orderly.step step).kept key record found
  have isIdentity := isIdentity_of_kept kept isTyped
  have property := idProperty_of_step orderly step name
  refine ⟨isIdentity, ?_⟩
  rcases record_of_step step found with older | ⟨pending, version, stores, rfl, rfl⟩
  · have carries := (identified key record older name isTyped).2
    rcases property with same | ⟨options, rfl, isSchema⟩
    · exact carries.congr same
    · refine carries.congr ?_
      rw [isSchema]
      exact keeps.keepsProperty name options rfl key record older isTyped
  · have plain := isIdentity.decodeString_eq (keeps.properNames name (kept.isKnown name isTyped))
    have carries := (request.isIdentified_of_stores orderly.named stores name isTyped).decode_encode
      plain database.config.keepUndefined
    rcases property with same | ⟨options, rfl, _⟩
    · exact carries.congr same
    · -- A definition stores nothing.
      rcases stores with ⟨final, ran⟩
      cases ran

theorem identified_of_reachable
    (reachable : Reachable (fun database request => request.KeepsIdentities database) database) :
    database.Identified := by
  induction reachable with
  | opened accepted =>
      intro key record found
      rw [(opened_of_openStore accepted).isStore] at found
      cases found
  | step before keeps ih => exact ih.step (orderly_of_reachable before) keeps

end Database

end RecordIndex
