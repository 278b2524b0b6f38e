import RecordIndex.Proofs.Database.Calls
import RecordIndex.Proofs.Database.Untouched

namespace RecordIndex

/-!
# Actions that cannot be told apart

Two databases with the same configuration and the same store, whose schemas
look the same, carry out every write alike, as long as no names are drawn.  The
generators of their schemas and the supplies of names do not matter then.  That
an action has drawn a name is seen from the supply that it leaves: no counter
ever goes down, and a draw moves one of them on.
-/

/-- What is seen of the schemas of a registry. -/
def Registry.outline (registry : Registry) (name : String) : Option Schema :=
  (registry.get? name).map Schema.outline

/-- What does not depend on the generator is the same for schemas that look the
same. -/
theorem Schema.congr_outline {View : Type} (view : Schema -> View)
    (blind : forall schema, view schema.outline = view schema) {first second : Schema}
    (same : first.outline = second.outline) : view first = view second :=
  (blind first).symm.trans ((congrArg view same).trans (blind second))

/-- How many names have been drawn from a counter. -/
def IdSupply.count (supply : IdSupply) (counter : Nat) : Nat :=
  (supply.drawn.get? counter).getD 0

theorem IdSupply.count_draw (supply : IdSupply) (generator : IdGenerator) (counter : Nat) :
    (supply.draw generator).2.count counter =
      if counter = generator.counter then supply.count counter + 1 else supply.count counter := by
  unfold count draw
  split
  · rename_i same
    rw [same, Table.get?_insert_self]
    rfl
  · rename_i different
    rw [Table.get?_insert_of_ne different]

theorem Option.eq_none_or_some_of_map_eq {Data View : Type} {view : Data -> View}
    {first second : Option Data} (same : first.map view = second.map view) :
    (first = none ∧ second = none) ∨
      ∃ one two, first = some one ∧ second = some two ∧ view one = view two := by
  cases first with
  | none =>
      cases second with
      | none => exact .inl ⟨rfl, rfl⟩
      | some two => cases same
  | some one =>
      cases second with
      | none => cases same
      | some two => exact .inr ⟨one, two, rfl, rfl, Option.some.inj same⟩

namespace Transaction

/-- Two transactions have come to the same store and to schemas that look the
same. -/
structure Resembles (first second : Transaction) : Prop where
  isStore : first.store = second.store
  outlines : first.schemas.outline = second.schemas.outline
  named : Database.Named first.schemas
  named' : Database.Named second.schemas

end Transaction

namespace Write

variable {Result Next View NextView : Type}

/-! ## Agreement -/

/-- The first action draws forward only.  If it draws nothing, both actions
lead from transactions that resemble each other to the same view of a result
and to such transactions again. -/
structure Agrees (view : Result -> View) (first second : Write Result) : Prop where
  grows : forall txn counter,
    txn.supply.count counter ≤ (first.run txn).2.supply.count counter
  agrees : forall txn txn', txn.Resembles txn' ->
    (forall counter, (first.run txn).2.supply.count counter = txn.supply.count counter) ->
      (first.run txn).1.map view = (second.run txn').1.map view ∧
        (first.run txn).2.Resembles (second.run txn').2

namespace Agrees

variable {view : Result -> View} {nextView : Next -> NextView}

theorem pure {one two : Result} (same : view one = view two) :
    Agrees view (Pure.pure one) (Pure.pure two) where
  grows _ _ := Nat.le_refl _
  agrees _ _ resembles _ := ⟨congrArg Except.ok same, resembles⟩

theorem bind {first second : Write Result} {next next' : Result -> Write Next}
    (one : Agrees view first second)
    (two : forall result result', view result = view result' ->
      Agrees nextView (next result) (next' result')) :
    Agrees nextView (first >>= next) (second >>= next') := by
  constructor
  · intro txn counter
    have before := one.grows txn counter
    cases ran : first.run txn with
    | mk outcome middle =>
        rw [ran] at before
        cases outcome with
        | error cause =>
            rw [run_bind_error ran]
            exact before
        | ok result =>
            rw [run_bind_ok ran]
            exact Nat.le_trans before ((two result result rfl).grows middle counter)
  · intro txn txn' resembles quiet
    have before := one.grows txn
    have agrees := one.agrees txn txn' resembles
    cases ran : first.run txn with
    | mk outcome middle =>
        cases ran' : second.run txn' with
        | mk outcome' middle' =>
            rw [ran, ran'] at agrees
            rw [ran] at before
            cases outcome with
            | error cause =>
                rw [run_bind_error ran] at quiet ⊢
                rcases agrees quiet with ⟨same, resembles'⟩
                cases outcome' with
                | ok result' => cases same
                | error cause' =>
                    rw [run_bind_error ran']
                    exact ⟨congrArg Except.error (Except.error.inj same), resembles'⟩
            | ok result =>
                rw [run_bind_ok ran] at quiet ⊢
                -- What the whole leaves as it was has not been drawn from in between.
                have unmoved (counter : Nat) :
                    middle.supply.count counter = txn.supply.count counter :=
                  Nat.le_antisymm (Nat.le_trans ((two result result rfl).grows middle counter)
                    (Nat.le_of_eq (quiet counter))) (before counter)
                rcases agrees unmoved with ⟨same, resembles'⟩
                cases outcome' with
                | error cause' => cases same
                | ok result' =>
                    rw [run_bind_ok ran']
                    exact (two result result' (Except.ok.inj same)).agrees middle middle'
                      resembles' fun counter => (quiet counter).trans (unmoved counter).symm

/-- Where the results of the first part are the same, the rest is compared on
one result. -/
theorem bind_same {first second : Write Result} {next next' : Result -> Write Next}
    (one : Agrees id first second)
    (two : forall result, Agrees nextView (next result) (next' result)) :
    Agrees nextView (first >>= next) (second >>= next') := by
  refine one.bind fun result result' same => ?_
  have same : result = result' := same
  rw [← same]
  exact two result

theorem map {first second : Write Result} (agrees : Agrees view first second)
    {make make' : Result -> Next} (same : forall result result', view result = view result' ->
      nextView (make result) = nextView (make' result')) :
    Agrees nextView (make <$> first) (make' <$> second) := by
  rw [← bind_pure_comp, ← bind_pure_comp]
  exact agrees.bind fun result result' alike => pure (same result result' alike)

theorem lift {one two : Except Error Result} (same : one.map view = two.map view) :
    Agrees view (liftM one : Write Result) (liftM two) := by
  cases one with
  | error cause =>
      cases two with
      | error cause' =>
          exact ⟨fun _ _ => Nat.le_refl _, fun _ _ resembles _ =>
            ⟨congrArg Except.error (Except.error.inj same), resembles⟩⟩
      | ok result' => cases same
  | ok result =>
      cases two with
      | error cause' => cases same
      | ok result' =>
          exact ⟨fun _ _ => Nat.le_refl _, fun _ _ resembles _ =>
            ⟨congrArg Except.ok (Except.ok.inj same), resembles⟩⟩

theorem lift_same {one two : Except Error Result} (same : one = two) :
    Agrees id (liftM one : Write Result) (liftM two) :=
  lift (congrArg (Except.map id) same)

/-- A change that draws nothing. -/
theorem modify {change change' : Transaction -> Transaction}
    (keeps : forall txn, (change txn).supply = txn.supply)
    (resembles : forall txn txn', txn.Resembles txn' -> (change txn).Resembles (change' txn')) :
    Agrees id (MonadStateOf.modifyGet fun txn => ((), change txn))
      (MonadStateOf.modifyGet fun txn => ((), change' txn)) where
  grows txn counter := Nat.le_of_eq (congrArg (IdSupply.count · counter) (keeps txn).symm)
  agrees txn txn' alike _ := ⟨rfl, resembles txn txn' alike⟩

/-- Of an action that draws a name nothing else matters. -/
theorem draw {make : Transaction -> Result} {generator : IdGenerator} {second : Write Result} :
    Agrees view (MonadStateOf.modifyGet fun txn =>
      (make txn, { txn with supply := (txn.supply.draw generator).2 })) second := by
  constructor
  · intro txn counter
    change txn.supply.count counter ≤ (txn.supply.draw generator).2.count counter
    rw [IdSupply.count_draw]
    split
    · exact Nat.le_succ _
    · exact Nat.le_refl _
  · intro txn txn' _ quiet
    have moved : (txn.supply.draw generator).2.count generator.counter =
      txn.supply.count generator.counter := quiet generator.counter
    rw [IdSupply.count_draw, if_pos rfl] at moved
    exact absurd moved (Nat.succ_ne_self _)

end Agrees

/-- What actions may see of a transaction. -/
def seen (txn : Transaction) : Store × (String -> Option Schema) :=
  (txn.store, txn.schemas.outline)

theorem agrees_get : Agrees seen (get : Write Transaction) get where
  grows _ _ := Nat.le_refl _
  agrees txn txn' resembles _ := by
    refine ⟨congrArg Except.ok ?_, resembles⟩
    unfold seen
    rw [resembles.isStore, resembles.outlines]

end Write

/-! ## Databases that resemble each other -/

namespace Database

/-- The databases are configured alike and have the same store, and their
schemas look the same. -/
structure Resembles (first second : Database) : Prop where
  isConfig : first.config = second.config
  isStore : first.store = second.store
  outlines : first.registry.outline = second.registry.outline

variable {first second : Database}

theorem Resembles.registered (alike : first.Resembles second) (name : String) :
    (first.registry.get? name = none ∧ second.registry.get? name = none) ∨
      ∃ one two, first.registry.get? name = some one ∧ second.registry.get? name = some two ∧
        one.outline = two.outline :=
  Option.eq_none_or_some_of_map_eq (congrFun alike.outlines name)

/-- What does not depend on the generator is the same for what is registered under
a name. -/
theorem Resembles.view_eq {View : Type} (alike : first.Resembles second)
    (view : Option Schema -> View)
    (blind : forall schema, view (some schema.outline) = view (some schema)) (name : String) :
    view (first.registry.get? name) = view (second.registry.get? name) := by
  rcases alike.registered name with ⟨isNone, isNone'⟩ | ⟨one, two, isOne, isTwo, same⟩
  · rw [isNone, isNone']
  · rw [isOne, isTwo]
    exact Schema.congr_outline (fun schema => view (some schema)) blind same

theorem Resembles.terms_eq (alike : first.Resembles second) {schema schema' : Schema}
    (same : schema.outline = schema'.outline) (value : Value) :
    first.terms schema value = second.terms schema' value := by
  have paths : schema.indexedPaths = schema'.indexedPaths :=
    Schema.congr_outline Schema.indexedPaths (fun _ => rfl) same
  unfold terms deriver
  rw [paths, alike.isConfig]

/-- Definitions of schemas that look the same keep registries looking the same. -/
theorem outline_define {registry registry' : Registry}
    (alike : registry.outline = registry'.outline) {schema schema' : Schema}
    (same : schema.outline = schema'.outline) :
    (registry.define schema).outline = (registry'.define schema').outline := by
  have isName : schema.typeName = schema'.typeName :=
    Schema.congr_outline Schema.typeName (fun _ => rfl) same
  funext name
  unfold Registry.outline
  rw [get?_define, get?_define, isName]
  split
  · exact congrArg some same
  · exact congrFun alike name

/-- Keys tell the same types. -/
theorem Resembles.typeOfKey?_eq (alike : first.Resembles second) (key : String) :
    first.typeOfKey? key = second.typeOfKey? key := by
  unfold typeOfKey?
  split
  · exact alike.view_eq (Option.map Schema.typeName) (fun _ => rfl) _
  · rfl

end Database

namespace Write

open Database

variable {first second : Database}

/-! ## The parts of a write -/

theorem agrees_record? (key : String) : Agrees id (record? key) (record? key) := by
  unfold record?
  refine agrees_get.bind fun txn txn' same => Agrees.pure ?_
  have isStore : txn.store = txn'.store := congrArg Prod.fst same
  rw [isStore]

theorem resembles_define {txn txn' : Transaction} (resembles : txn.Resembles txn')
    {schema schema' : Schema} (same : schema.outline = schema'.outline) :
    Transaction.Resembles { txn with schemas := txn.schemas.define schema }
      { txn' with schemas := txn'.schemas.define schema' } := by
  have named {registry : Registry} (named : Named registry) (schema : Schema) :
      Named (registry.define schema) := by
    intro name found isFound
    rw [get?_define] at isFound
    split at isFound
    · rename_i isName
      cases isFound
      exact isName.symm
    · exact named name found isFound
  exact ⟨resembles.isStore, outline_define resembles.outlines same, named resembles.named schema,
    named resembles.named' schema'⟩

theorem agrees_updateSchema {schema schema' : Schema} (same : schema.outline = schema'.outline) :
    Agrees id (updateSchema schema) (updateSchema schema') :=
  Agrees.modify (fun _ => rfl) fun _ _ resembles => resembles_define resembles same

theorem agrees_modifyStore {change change' : Store -> Store} (same : change = change') :
    Agrees id (modifyStore change) (modifyStore change') := by
  subst same
  exact Agrees.modify (fun _ => rfl) fun _ _ resembles =>
    ⟨congrArg change resembles.isStore, resembles.outlines, resembles.named, resembles.named'⟩

theorem agrees_schema (alike : first.Resembles second) (name : String) :
    Agrees Schema.outline (schema first name) (schema second name) := by
  unfold schema
  refine agrees_get.bind fun txn txn' same => ?_
  rcases Option.eq_none_or_some_of_map_eq (congrFun (congrArg Prod.snd same) name) with
    ⟨isNone, isNone'⟩ | ⟨one, two, isOne, isTwo, same⟩
  · rw [isNone, isNone']
    dsimp only
    rcases alike.registered name with ⟨isNone, isNone'⟩ | ⟨one, two, isOne, isTwo, same⟩
    · rw [isNone, isNone']
      exact (agrees_updateSchema rfl).bind_same fun _ => Agrees.pure rfl
    · rw [isOne, isTwo]
      exact Agrees.pure same
  · rw [isOne, isTwo]
    exact Agrees.pure same

theorem agrees_storedTerms (alike : first.Resembles second) (record : Option StoredRecord) :
    Agrees id (storedTerms first record) (storedTerms second record) := by
  unfold storedTerms
  split
  · exact Agrees.pure rfl
  · split
    · exact Agrees.pure rfl
    · exact (agrees_schema alike _).bind fun schema schema' same =>
        Agrees.pure (alike.terms_eq same _)

/-- Schemas that look the same learn the same. -/
theorem outline_learn {schema schema' : Schema} (same : schema.outline = schema'.outline)
    (value : Value) : (schema.learn value).1.outline = (schema'.learn value).1.outline ∧
      (schema.learn value).2 = (schema'.learn value).2 :=
  ⟨Schema.congr_outline (fun schema => (schema.learn value).1.outline) (fun _ => rfl) same,
    Schema.congr_outline (fun schema => (schema.learn value).2) (fun _ => rfl) same⟩

theorem agrees_learnedVector (alike : first.Resembles second) {schema schema' : Option Schema}
    (alike' : schema.map Schema.outline = schema'.map Schema.outline) (value : Value) :
    Agrees id (learnedVector first schema value) (learnedVector second schema' value) := by
  rcases Option.eq_none_or_some_of_map_eq alike' with ⟨rfl, rfl⟩ | ⟨one, two, rfl, rfl, same⟩
  · exact Agrees.pure rfl
  · have hasFeatures : one.hasFeatures = two.hasFeatures :=
      Schema.congr_outline Schema.hasFeatures (fun _ => rfl) same
    rcases outline_learn same value with ⟨learned, changed⟩
    have vector : (one.learn value).1.vector value = (two.learn value).1.vector value :=
      Schema.congr_outline (Schema.vector · value) (fun _ => rfl) learned
    unfold learnedVector
    dsimp only
    rw [alike.isConfig, hasFeatures, changed]
    split
    · split
      · exact (agrees_updateSchema learned).bind_same fun _ => Agrees.pure vector
      · exact Agrees.pure vector
    · exact Agrees.pure rfl

theorem agrees_putRecord (alike : first.Resembles second) (pending : PendingRecord) :
    Agrees id (putRecord first pending) (putRecord second pending) := by
  have schemaOfType : Agrees (Option.map Schema.outline) (pending.typeName.mapM (schema first))
      (pending.typeName.mapM (schema second)) := by
    cases pending.typeName with
    | none => exact Agrees.pure rfl
    | some name => exact (agrees_schema alike name).map fun _ _ same => congrArg some same
  unfold putRecord
  refine (agrees_storedTerms alike pending.previous).bind_same fun oldTerms => ?_
  refine schemaOfType.bind fun schema schema' alike' => ?_
  have newTerms : (schema.map fun schema => first.terms schema pending.value) =
      schema'.map fun schema => second.terms schema pending.value := by
    rcases Option.eq_none_or_some_of_map_eq alike' with ⟨rfl, rfl⟩ | ⟨one, two, rfl, rfl, same⟩
    · rfl
    · exact congrArg some (alike.terms_eq same pending.value)
  refine (agrees_learnedVector alike alike' pending.value).bind_same fun vector => ?_
  refine agrees_modifyStore ?_
  rw [newTerms, alike.isConfig]

theorem agrees_removeRecord (alike : first.Resembles second) (key : String)
    (previous : StoredRecord) :
    Agrees id (removeRecord first key previous) (removeRecord second key previous) := by
  unfold removeRecord
  exact (agrees_storedTerms alike (some previous)).bind_same fun oldTerms =>
    agrees_modifyStore rfl

theorem agrees_generateId (schema schema' : Schema) :
    Agrees id (generateId schema) (generateId schema') :=
  Agrees.draw

theorem agrees_putKey (alike : first.Resembles second) (key typeName : Option String)
    (value : Value) :
    Agrees id (putKey first key typeName value) (putKey second key typeName value) := by
  unfold putKey
  split
  · exact Agrees.pure rfl
  · unfold chooseKey
    split
    · exact Agrees.draw
    · refine (agrees_schema alike _).bind fun schema schema' same => ?_
      have wanted : schema.wantedKey value = schema'.wantedKey value :=
        Schema.congr_outline (Schema.wantedKey · value) (fun _ => rfl) same
      refine (Agrees.lift_same wanted).bind_same fun wanted => ?_
      split
      · exact Agrees.pure rfl
      · exact agrees_generateId schema schema'

theorem agrees_copyKey (alike : first.Resembles second) (destination typeName : Option String) :
    Agrees id (copyKey first destination typeName) (copyKey second destination typeName) := by
  unfold copyKey
  split
  · exact Agrees.pure rfl
  · exact Agrees.draw
  · exact (agrees_schema alike _).bind fun schema schema' _ => agrees_generateId schema schema'

theorem agrees_bindIdentity (alike : first.Resembles second) (key : String)
    (typeName : Option String) (value : Value) :
    Agrees id (bindIdentity first key typeName value) (bindIdentity second key typeName value) := by
  unfold bindIdentity
  split
  · exact Agrees.pure rfl
  · refine (agrees_schema alike _).bind fun schema schema' same => Agrees.lift_same ?_
    exact Schema.congr_outline (Schema.bindIdentity · key value) (fun _ => rfl) same

theorem agrees_rebindIdentity (alike : first.Resembles second) (key : String)
    (typeName : Option String) (value : Value) : Agrees id
      (rebindIdentity first key typeName value) (rebindIdentity second key typeName value) := by
  unfold rebindIdentity
  split
  · exact Agrees.pure rfl
  · refine (agrees_schema alike _).bind fun schema schema' same => Agrees.pure ?_
    exact Schema.congr_outline (Schema.rebindIdentity · key value) (fun _ => rfl) same

theorem agrees_pendingPut (alike : first.Resembles second) (key : Option String) (value : Value)
    (options : PutOptions) :
    Agrees id (pendingPut first key value options) (pendingPut second key value options) := by
  unfold pendingPut
  refine (agrees_putKey alike key options.typeName value).bind_same fun key => ?_
  refine (agrees_record? key).bind_same fun previous => ?_
  dsimp only
  rw [alike.typeOfKey?_eq]
  refine (Agrees.lift_same rfl).bind_same fun _ => ?_
  refine (agrees_bindIdentity alike key _ value).bind_same fun bound => ?_
  split
  · exact Agrees.pure rfl
  · exact Agrees.pure rfl

theorem agrees_pendingPatch (alike : first.Resembles second) (key : String) (changes : Value)
    (version ifVersion : Option Nat) :
    Agrees id (pendingPatch first key changes version ifVersion)
      (pendingPatch second key changes version ifVersion) := by
  unfold pendingPatch
  refine (agrees_record? key).bind_same fun previous => ?_
  split
  · exact Agrees.pure rfl
  · split
    · refine (agrees_bindIdentity alike key _ _).bind_same fun bound => ?_
      exact Agrees.pure rfl
    · exact Agrees.pure rfl

theorem agrees_pendingCopy (alike : first.Resembles second) (key : String)
    (destination : Option String) (options : CopyOptions) :
    Agrees id (pendingCopy first key destination options)
      (pendingCopy second key destination options) := by
  unfold pendingCopy
  refine (agrees_record? key).bind_same fun source => ?_
  split
  · exact Agrees.pure rfl
  · split
    · refine (agrees_copyKey alike destination _).bind_same fun target => ?_
      refine (Agrees.lift_same rfl).bind_same fun _ => ?_
      refine (agrees_record? target).bind_same fun previous => ?_
      refine (Agrees.lift_same rfl).bind_same fun _ => ?_
      refine (agrees_rebindIdentity alike target _ _).bind_same fun bound => ?_
      exact Agrees.pure rfl
    · exact Agrees.pure rfl

/-! ## Whole writes -/

theorem agrees_put (alike : first.Resembles second) (key : Option String) (value : Value)
    (options : PutOptions) :
    Agrees id (put first key value options) (put second key value options) := by
  unfold put
  refine (agrees_pendingPut alike key value options).bind_same fun pending => ?_
  split
  · exact Agrees.pure rfl
  · exact (agrees_putRecord alike _).bind_same fun _ => Agrees.pure rfl

theorem agrees_patch (alike : first.Resembles second) (key : String) (changes : Value)
    (version ifVersion : Option Nat) :
    Agrees id (patch first key changes version ifVersion)
      (patch second key changes version ifVersion) := by
  unfold patch
  refine (agrees_pendingPatch alike key changes version ifVersion).bind_same fun pending => ?_
  split
  · exact Agrees.pure rfl
  · exact (agrees_putRecord alike _).bind_same fun _ => Agrees.pure rfl

theorem agrees_remove (alike : first.Resembles second) (key : String) (ifVersion : Option Nat) :
    Agrees id (remove first key ifVersion) (remove second key ifVersion) := by
  unfold remove
  refine (agrees_record? key).bind_same fun previous => ?_
  split
  · exact Agrees.pure rfl
  · split
    · exact (agrees_removeRecord alike key _).bind_same fun _ => Agrees.pure rfl
    · exact Agrees.pure rfl

theorem agrees_copyRecord (alike : first.Resembles second) (key : String)
    (destination : Option String) (options : CopyOptions) :
    Agrees id (copyRecord first key destination options)
      (copyRecord second key destination options) := by
  unfold copyRecord
  refine (agrees_pendingCopy alike key destination options).bind_same fun copied => ?_
  split
  · exact Agrees.pure rfl
  · exact (agrees_putRecord alike _).bind_same fun _ => Agrees.pure rfl

theorem agrees_copy (alike : first.Resembles second) (key : String)
    (destination : Option String) (options : CopyOptions) :
    Agrees id (copy first key destination options) (copy second key destination options) :=
  (agrees_copyRecord alike key destination options).bind_same fun _ => Agrees.pure rfl

theorem agrees_move (alike : first.Resembles second) (key : String)
    (destination : Option String) (options : CopyOptions) :
    Agrees id (move first key destination options) (move second key destination options) := by
  unfold move
  refine (agrees_copyRecord alike key destination options).bind_same fun copied => ?_
  split
  · exact Agrees.pure rfl
  · exact (agrees_removeRecord alike key _).bind_same fun _ => Agrees.pure rfl

theorem agrees_defineSchema (alike : first.Resembles second) {schema schema' : Schema}
    (same : schema.outline = schema'.outline) :
    Agrees id (defineSchema first schema) (defineSchema second schema') := by
  have isName : schema.typeName = schema'.typeName :=
    Schema.congr_outline Schema.typeName (fun _ => rfl) same
  have paths : schema.indexedPaths = schema'.indexedPaths :=
    Schema.congr_outline Schema.indexedPaths (fun _ => rfl) same
  unfold defineSchema
  refine (agrees_updateSchema same).bind_same fun _ => ?_
  rw [isName]
  rcases alike.registered schema'.typeName with ⟨isNone, isNone'⟩ | ⟨one, two, isOne, isTwo, same'⟩
  · rw [isNone, isNone']
    exact Agrees.pure rfl
  · have oldPaths : one.indexedPaths = two.indexedPaths :=
      Schema.congr_outline Schema.indexedPaths (fun _ => rfl) same'
    rw [isOne, isTwo]
    dsimp only
    rw [paths, oldPaths]
    split
    · refine agrees_modifyStore ?_
      rw [isName]
      simp only [alike.terms_eq same', alike.terms_eq same]
    · exact Agrees.pure rfl

end Write

/-! ## Transactions -/

namespace Database

variable {first second : Database}

/-- Where the transactions of two databases start. -/
theorem Resembles.start (alike : first.Resembles second) : first.start.Resembles second.start :=
  ⟨alike.isStore, rfl, nofun, nofun⟩

theorem resembles_commit (alike : first.Resembles second) {txn txn' : Transaction}
    (resembles : txn.Resembles txn') : (first.commit txn).Resembles (second.commit txn') := by
  have stored (registry : Registry) (name : String) :
      (registry.get? name).map Schema.stored = (registry.outline name).map Schema.stored := by
    unfold Registry.outline
    rw [Option.map_map]
    rfl
  have schemas : (txn.store.putSchemas txn.schemas.values).schemas =
      (txn'.store.putSchemas txn'.schemas.values).schemas := by
    refine Table.eq_of_get?_eq fun name => ?_
    rw [get?_schemas_putSchemas resembles.named, get?_schemas_putSchemas resembles.named', stored,
      stored, resembles.outlines, resembles.isStore]
  refine ⟨alike.isConfig, ?_, funext fun name => ?_⟩
  · change txn.store.putSchemas txn.schemas.values = txn'.store.putSchemas txn'.schemas.values
    rw [putSchemas_eq, putSchemas_eq] at schemas ⊢
    rw [resembles.isStore] at schemas ⊢
    exact congrArg (fun schemas => { txn'.store with schemas }) schemas
  · change Option.map _ ((first.registry.defineAll txn.schemas.values).get? name) =
      Option.map _ ((second.registry.defineAll txn'.schemas.values).get? name)
    rw [get?_defineAll resembles.named, get?_defineAll resembles.named', Option.map_or,
      Option.map_or]
    exact congr (congrArg Option.or (congrFun resembles.outlines name))
      (congrFun alike.outlines name)

/-- A write that draws nothing is answered alike and leads to databases that
resemble each other. -/
theorem Resembles.write {Result View : Type} {view : Result -> View} {action action' : Write Result}
    (alike : first.Resembles second) (agrees : Write.Agrees view action action')
    (quiet : forall counter,
      (first.write action).2.supply.count counter = first.supply.count counter) :
    (first.write action).1.map view = (second.write action').1.map view ∧
      (first.write action).2.Resembles (second.write action').2 := by
  have same := agrees.agrees first.start second.start alike.start
  rcases first.write_cases action with ⟨cause, txn, ran, isWrite⟩ | ⟨result, txn, ran, isWrite⟩
  · rw [isWrite] at quiet ⊢
    rw [ran] at same
    rcases same quiet with ⟨outcome, _⟩
    rcases second.write_cases action' with
      ⟨cause', txn', ran', isWrite'⟩ | ⟨result', txn', ran', isWrite'⟩
    · rw [ran'] at outcome
      rw [isWrite']
      exact ⟨congrArg Except.error (Except.error.inj outcome), alike.isConfig, alike.isStore,
        alike.outlines⟩
    · rw [ran'] at outcome
      cases outcome
  · rw [isWrite] at quiet ⊢
    rw [ran] at same
    rcases same quiet with ⟨outcome, resembles⟩
    rcases second.write_cases action' with
      ⟨cause', txn', ran', isWrite'⟩ | ⟨result', txn', ran', isWrite'⟩
    · rw [ran'] at outcome
      cases outcome
    · rw [ran'] at outcome resembles
      rw [isWrite']
      exact ⟨congrArg Except.ok (Except.ok.inj outcome), resembles_commit alike resembles⟩

/-- No counter goes down in a write. -/
theorem count_le_write {Result View : Type} {view : Result -> View} {action action' : Write Result}
    (agrees : Write.Agrees view action action') (counter : Nat) :
    first.supply.count counter ≤ (first.write action).2.supply.count counter := by
  have grows := agrees.grows first.start counter
  rcases first.write_cases action with ⟨cause, txn, ran, isWrite⟩ | ⟨result, txn, ran, isWrite⟩
  all_goals
    rw [isWrite]
    rw [ran] at grows
    exact grows

end Database

end RecordIndex
