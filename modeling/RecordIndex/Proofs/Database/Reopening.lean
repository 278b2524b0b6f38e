import RecordIndex.Proofs.Database.Integrity
import RecordIndex.Proofs.Database.Likeness

namespace RecordIndex

/-!
# Opening a database again

A database that is closed and opened again under its configuration has its
store, and its schemas as they were stored.  It cannot be told from the one that
stayed open, by any calls that draw no names, as long as the stored schemas
look like the registered ones.  They do unless a bound of a feature is not
finite, since such a bound is lost when it is stored.
-/

/-! ## What is stored of schemas -/

namespace FeatureKind

/-- All bounds are finite. -/
def IsBounded : FeatureKind -> Prop
  | .numeric low high _ =>
      (∀ bound ∈ low, bound.isFinite = true) ∧ ∀ bound ∈ high, bound.isFinite = true
  | .categorical _ _ => True

theorem filter_isFinite_eq_iff (bound : Option Number) :
    bound.filter Number.isFinite = bound ↔ ∀ n ∈ bound, n.isFinite = true := by
  cases bound with
  | none => exact ⟨fun _ => nofun, fun _ => rfl⟩
  | some n =>
      rw [Option.filter_eq_some_iff]
      constructor
      · rintro ⟨_, isFinite⟩ other same
        cases same
        exact isFinite
      · exact fun all => ⟨rfl, all n rfl⟩

theorem stored_eq_iff (kind : FeatureKind) : kind.stored = kind ↔ kind.IsBounded := by
  cases kind with
  | numeric low high fixed =>
      unfold stored IsBounded
      rw [numeric.injEq, filter_isFinite_eq_iff, filter_isFinite_eq_iff]
      exact ⟨fun same => ⟨same.1, same.2.1⟩, fun finite => ⟨finite.1, finite.2, rfl⟩⟩
  | categorical categories fixed => exact ⟨fun _ => trivial, fun _ => rfl⟩

end FeatureKind

theorem Feature.stored_eq_iff (feature : Feature) :
    feature.stored = feature ↔ feature.kind.IsBounded := by
  rw [← feature.kind.stored_eq_iff]
  constructor
  · exact fun same => congrArg Feature.kind same
  · intro same
    unfold stored
    rw [same]

namespace Schema

/-- All bounds of the features are finite. -/
def IsBounded (schema : Schema) : Prop :=
  ∀ feature ∈ schema.features, feature.kind.IsBounded

/-- A schema is stored as it looks exactly if its bounds are finite. -/
theorem stored_eq_outline_iff (schema : Schema) : schema.stored = schema.outline ↔
    schema.IsBounded := by
  have each : schema.features.map Feature.stored = schema.features ↔ schema.IsBounded := by
    have same := List.map_inj_left (l := schema.features) (f := Feature.stored) (g := id)
    rw [List.map_id] at same
    exact same.trans (forall₂_congr fun feature _ => feature.stored_eq_iff)
  rw [← each]
  constructor
  · exact fun same => congrArg Schema.features same
  · intro same
    unfold stored outline
    rw [same]

end Schema

namespace Database

/-- All bounds of the features of the registered schemas are finite. -/
def IsBounded (database : Database) : Prop :=
  forall name schema, database.registry.get? name = some schema -> schema.IsBounded

variable {database : Database}

/-- The stored schemas look like the registered ones exactly if all bounds are
finite. -/
theorem Orderly.outline_schemas_iff (orderly : database.Orderly) :
    Registry.outline database.store.schemas = database.registry.outline ↔ database.IsBounded := by
  constructor
  · intro same name schema isSchema
    have here := congrFun same name
    unfold Registry.outline at here
    rw [orderly.alike, isSchema] at here
    exact schema.stored_eq_outline_iff.mp (Option.some.inj here)
  · intro bounded
    funext name
    unfold Registry.outline
    rw [orderly.alike]
    cases isSchema : database.registry.get? name with
    | none => rfl
    | some schema =>
        exact congrArg some (schema.stored_eq_outline_iff.mpr (bounded name schema isSchema))

/-! ## Opening again -/

theorem settleAll_of_settled {store : Store} {settings : List (String × String)}
    (settled : ∀ setting ∈ settings, store.settings.get? setting.1 = some setting.2) :
    settings.foldlM settle store = .ok store := by
  induction settings with
  | nil => rfl
  | cons setting rest ih =>
      have isFirst : settle store setting = .ok store := by
        unfold settle
        rw [settled setting List.mem_cons_self]
        exact if_pos rfl
      rw [List.foldlM_cons, isFirst]
      exact ih fun other member => settled other (List.mem_cons_of_mem _ member)

/-- The database as it is opened again. -/
def reopened (database : Database) (supply : IdSupply) : Database where
  config := database.config
  store := database.store
  registry := Registry.defineAll .empty database.store.schemas.values
  supply := supply

/-- A database can be opened again under its own configuration. -/
theorem Orderly.openStore_eq (orderly : database.Orderly) (supply : IdSupply) :
    openStore database.config database.store supply = .ok (database.reopened supply) := by
  have valid : database.config.validate = .ok () := if_neg (Nat.ne_of_gt orderly.readsRows)
  unfold openStore
  rw [valid, settleAll_of_settled orderly.settled]
  rfl

theorem Orderly.outline_reopened (orderly : database.Orderly) (supply : IdSupply) :
    (database.reopened supply).registry.outline = Registry.outline database.store.schemas := by
  have opened := opened_of_openStore (orderly.openStore_eq supply)
  funext name
  unfold Registry.outline
  rw [orderly.get?_reopened opened]

/-! ## Calls that draw nothing -/

/-- The call draws a name.  What is drawn after the database has been opened
again is not counted from before. -/
def DrawsFor (database : Database) : Call -> Prop
  | .request (.reopen _ _) => False
  | call => ∃ counter, database.supply.count counter < (database.behind call).supply.count counter

/-- None of the calls draws a name. -/
def DrawsNothing (database : Database) : List Call -> Prop
  | [] => True
  | call :: rest => ¬ database.DrawsFor call ∧ (database.behind call).DrawsNothing rest

variable {first second : Database}

theorem Resembles.write_same {Result : Type} {action action' : Write Result}
    (alike : first.Resembles second) (agrees : Write.Agrees id action action')
    (quiet : ¬ ∃ counter,
      first.supply.count counter < (first.write action).2.supply.count counter) :
    (first.write action).1 = (second.write action').1 ∧
      (first.write action).2.Resembles (second.write action').2 := by
  have unmoved (counter : Nat) :
      (first.write action).2.supply.count counter = first.supply.count counter :=
    Nat.le_antisymm (Nat.le_of_not_lt fun moved => quiet ⟨counter, moved⟩)
      (count_le_write agrees counter)
  rcases alike.write agrees unmoved with ⟨outcome, resembles⟩
  rw [Except.map_id] at outcome
  exact ⟨outcome, resembles⟩

/-- Definitions lead to schemas that look the same. -/
theorem Resembles.outline_resolve (alike : first.Resembles second) (typeName : String)
    (options : SchemaOptions) : (first.registry.resolve typeName options).outline =
      (second.registry.resolve typeName options).outline := by
  have based : (first.registry.base typeName options.parent).outline =
      (second.registry.base typeName options.parent).outline := by
    unfold Registry.base
    rcases alike.registered typeName with ⟨isNone, isNone'⟩ | ⟨one, two, isOne, isTwo, same⟩
    · rw [isNone, isNone']
      dsimp only
      cases options.parent with
      | none => rfl
      | some parent =>
          rw [Option.bind_some, Option.bind_some]
          rcases alike.registered parent with ⟨isNone, isNone'⟩ | ⟨one, two, isOne, isTwo, same⟩
          · rw [isNone, isNone']
          · rw [isOne, isTwo]
            exact Schema.congr_outline (fun schema => Schema.outline { schema with typeName })
              (fun _ => rfl) same
    · rw [isOne, isTwo]
      exact same
  exact Schema.congr_outline (fun schema => (schema.withOptions options).outline) (fun _ => rfl)
    based

theorem Resembles.get?_eq (alike : first.Resembles second) (key : String) :
    first.get? key = second.get? key := by
  unfold get?
  rw [alike.isStore]

theorem Resembles.vectorSchema (alike : first.Resembles second) (typeName : Option String) :
    (first.vectorSchema typeName).map (Option.map Schema.outline) =
      (second.vectorSchema typeName).map (Option.map Schema.outline) := by
  unfold Database.vectorSchema
  rw [alike.isConfig]
  split
  · rfl
  · cases typeName with
    | none => rfl
    | some name =>
        dsimp only
        rcases alike.registered name with ⟨isNone, isNone'⟩ | ⟨one, two, isOne, isTwo, same⟩
        · rw [isNone, isNone']
        · have hasFeatures : one.hasFeatures = two.hasFeatures :=
            Schema.congr_outline Schema.hasFeatures (fun _ => rfl) same
          rw [isOne, isTwo, Option.filter_some, Option.filter_some, hasFeatures]
          cases two.hasFeatures with
          | true => exact congrArg (fun schema => Except.ok (some schema)) same
          | false => rfl

/-- What goes on alike from views of outcomes that are the same comes to the
same. -/
theorem bind_eq_of_map_eq {Found View Next : Type} {view : Found -> View}
    {outcome outcome' : Except Error Found} (same : outcome.map view = outcome'.map view)
    {next next' : Found -> Except Error Next}
    (alike : forall found found', view found = view found' -> next found = next' found') :
    outcome >>= next = outcome' >>= next' := by
  cases outcome with
  | error cause =>
      cases outcome' with
      | error cause' => exact congrArg Except.error (Except.error.inj same)
      | ok found' => cases same
  | ok found =>
      cases outcome' with
      | error cause' => cases same
      | ok found' => exact alike found found' (Except.ok.inj same)

theorem Resembles.findByIndex_eq (alike : first.Resembles second) (pattern : Pattern)
    (valueMatch : Option Pattern) (select : Option Projection) (options : IndexOptions) :
    first.findByIndex pattern valueMatch select options =
      second.findByIndex pattern valueMatch select options := by
  have declared : (options.typeName.bind first.registry.get?).bind Schema.indexedPaths =
      (options.typeName.bind second.registry.get?).bind Schema.indexedPaths := by
    cases options.typeName with
    | none => rfl
    | some name => exact alike.view_eq (Option.bind · Schema.indexedPaths) (fun _ => rfl) name
  unfold findByIndex search queryTerms queryDeriver
  rw [declared, alike.isConfig, alike.isStore]

theorem Resembles.findByVector_eq (alike : first.Resembles second) (query : VectorQuery)
    (valueMatch : Option Pattern) (select : Option Projection) (options : VectorOptions) :
    first.findByVector query valueMatch select options =
      second.findByVector query valueMatch select options := by
  unfold findByVector
  rw [alike.isConfig, alike.isStore]
  refine congrArg (options.validate >>= ·) (funext fun _ => ?_)
  refine bind_eq_of_map_eq (alike.vectorSchema options.typeName) fun schema schema' alike' => ?_
  have isVector : queryVector schema query = queryVector schema' query := by
    rcases Option.eq_none_or_some_of_map_eq alike' with ⟨rfl, rfl⟩ | ⟨one, two, rfl, rfl, same⟩
    · rfl
    · cases query with
      | vector places => rfl
      | value record =>
          exact congrArg Except.ok
            (Schema.congr_outline (Schema.vector · record) (fun _ => rfl) same)
  rw [isVector]

theorem Resembles.checkIntegrity_eq (alike : first.Resembles second) :
    first.checkIntegrity = second.checkIntegrity := by
  have expected (record : StoredRecord) :
      first.expectedTerms record = second.expectedTerms record := by
    unfold expectedTerms
    cases record.typeName with
    | none => rfl
    | some name =>
        have same := alike.view_eq (fun found => (found.getD (.ofType name)).outline)
          (fun _ => rfl) name
        exact alike.terms_eq same record.value
  have rows (id : String) : first.expectedRows id = second.expectedRows id := by
    unfold expectedRows
    rw [alike.isStore]
    split
    · rw [expected]
    · rfl
  unfold checkIntegrity
  rw [alike.isStore]
  simp only [rows]

/-- A request that draws nothing is answered alike and leads to databases that
resemble each other. -/
theorem Resembles.respond (alike : first.Resembles second) (request : Request)
    (quiet : ¬ first.DrawsFor (.request request)) :
    first.respond request = second.respond request ∧
      (first.after request).Resembles (second.after request) := by
  cases request with
  | reopen config supply =>
      unfold Database.respond after
      rw [alike.isStore]
      refine ⟨rfl, ?_⟩
      dsimp only
      split
      · exact ⟨rfl, rfl, rfl⟩
      · exact alike
  | put key value options =>
      rcases alike.write_same (Write.agrees_put alike key value options) quiet with
        ⟨outcome, resembles⟩
      exact ⟨congrArg Answer.key outcome, resembles⟩
  | patch key changes version ifVersion =>
      rcases alike.write_same (Write.agrees_patch alike key changes version ifVersion) quiet with
        ⟨outcome, resembles⟩
      exact ⟨congrArg Answer.flag outcome, resembles⟩
  | remove key ifVersion =>
      rcases alike.write_same (Write.agrees_remove alike key ifVersion) quiet with
        ⟨outcome, resembles⟩
      exact ⟨congrArg Answer.key outcome, resembles⟩
  | copy key destination options =>
      rcases alike.write_same (Write.agrees_copy alike key destination options) quiet with
        ⟨outcome, resembles⟩
      exact ⟨congrArg Answer.key outcome, resembles⟩
  | move key destination options =>
      by_cases inPlace : destination = some key
      · have stays (database : Database) : database.move key destination options =
            (.ok ((database.get? key).map Entry.key), database) := if_pos inPlace
        unfold Database.respond after
        dsimp only
        rw [stays, stays, alike.get?_eq]
        exact ⟨rfl, alike⟩
      · have moves (database : Database) : database.move key destination options =
            database.write (Write.move database key destination options) := if_neg inPlace
        unfold DrawsFor behind after at quiet
        unfold Database.respond after
        dsimp only at quiet ⊢
        rw [moves] at quiet
        rw [moves, moves]
        rcases alike.write_same (Write.agrees_move alike key destination options) quiet with
          ⟨outcome, resembles⟩
        exact ⟨congrArg Answer.key outcome, resembles⟩
  | defineSchema typeName options =>
      have same := alike.outline_resolve typeName options
      rcases alike.write_same (Write.agrees_defineSchema alike same) quiet with
        ⟨outcome, resembles⟩
      refine ⟨?_, resembles⟩
      have answered (database : Database) : database.respond (.defineSchema typeName options) =
          .schema ((database.write (Write.defineSchema database
            (database.registry.resolve typeName options))).1.map fun _ =>
              some (database.registry.resolve typeName options).outline) := by
        unfold Database.respond
        dsimp only
        unfold defineSchema
        dsimp only
        cases (database.write (Write.defineSchema database
          (database.registry.resolve typeName options))).1 with
        | error cause => rfl
        | ok result => rfl
      rw [answered, answered, outcome, same]
  | getSchema typeName create =>
      unfold Database.respond after
      dsimp only
      unfold getSchema
      rcases alike.registered typeName with ⟨isNone, isNone'⟩ | ⟨one, two, isOne, isTwo, same⟩
      · rw [isNone, isNone']
        cases create with
        | false => exact ⟨rfl, alike⟩
        | true =>
            dsimp only
            rw [Registry.getOrCreate, Registry.getOrCreate, isNone, isNone']
            refine ⟨rfl, alike.isConfig, ?_, ?_⟩
            · exact congrArg (Store.putSchema · (Schema.ofType typeName)) alike.isStore
            · exact outline_define alike.outlines rfl
      · rw [isOne, isTwo]
        exact ⟨congrArg (fun schema => Answer.schema (.ok (some schema))) same, alike⟩
  | reindexVectors typeName =>
      have isSchema := alike.vectorSchema (some typeName)
      unfold Database.respond after
      dsimp only
      unfold reindexVectors
      cases found : first.vectorSchema (some typeName) with
      | error cause =>
          cases found' : second.vectorSchema (some typeName) with
          | ok schema' =>
              rw [found, found'] at isSchema
              cases isSchema
          | error cause' =>
              rw [found, found'] at isSchema
              exact ⟨congrArg (fun cause => Answer.count (.error cause))
                (Except.error.inj isSchema), alike⟩
      | ok schema =>
          cases found' : second.vectorSchema (some typeName) with
          | error cause' =>
              rw [found, found'] at isSchema
              cases isSchema
          | ok schema' =>
              rw [found, found'] at isSchema
              rcases Option.eq_none_or_some_of_map_eq (Except.ok.inj isSchema) with
                ⟨rfl, rfl⟩ | ⟨one, two, rfl, rfl, same⟩
              · exact ⟨rfl, alike⟩
              · have vector : one.vector = two.vector :=
                  Schema.congr_outline Schema.vector (fun _ => rfl) same
                dsimp only
                rw [alike.isStore, vector]
                exact ⟨rfl, alike.isConfig, rfl, alike.outlines⟩
  | newGenerator nth => exact ⟨rfl, alike.isConfig, alike.isStore, alike.outlines⟩

theorem Resembles.answer (alike : first.Resembles second) (call : Call)
    (quiet : ¬ first.DrawsFor call) : first.answer call = second.answer call ∧
      (first.behind call).Resembles (second.behind call) := by
  cases call with
  | request request => exact alike.respond request quiet
  | get key => exact ⟨congrArg Answer.entry (alike.get?_eq key), alike⟩
  | find pattern valueMatch select options =>
      exact ⟨congrArg Answer.range (alike.findByIndex_eq pattern valueMatch select options), alike⟩
  | findNear query valueMatch select options =>
      exact ⟨congrArg Answer.nearRange (alike.findByVector_eq query valueMatch select options),
        alike⟩
  | pull range =>
      unfold Database.answer pull
      rw [alike.isConfig, alike.isStore]
      exact ⟨rfl, alike⟩
  | pullNear range =>
      unfold Database.answer pull
      rw [alike.isConfig, alike.isStore]
      exact ⟨rfl, alike⟩
  | check => exact ⟨congrArg Answer.broken alike.checkIntegrity_eq, alike⟩

/-- Databases that resemble each other cannot be told apart by calls that draw
nothing. -/
theorem Resembles.answers_eq (alike : first.Resembles second) {calls : List Call}
    (quiet : first.DrawsNothing calls) : first.answers calls = second.answers calls := by
  induction calls generalizing first second with
  | nil => rfl
  | cons call rest ih =>
      rcases alike.answer call quiet.1 with ⟨same, alike'⟩
      unfold answers
      rw [same, ih alike' quiet.2]

/-! ## Reopening -/

/-- To look up the schema of a type. -/
def lookUp (name : String) : Call :=
  .request (.getSchema name false)

theorem answers_lookUp (database : Database) (name : String) :
    database.answers [lookUp name] = [.schema (.ok (database.registry.outline name))] := by
  have looks : database.getSchema name false = (database.registry.get? name, database) := by
    unfold getSchema
    cases database.registry.get? name with
    | none => rfl
    | some schema => rfl
  unfold answers lookUp answer respond
  dsimp only
  rw [looks]
  rfl

theorem drawsNothing_lookUp (database : Database) (name : String) :
    database.DrawsNothing [lookUp name] := by
  refine ⟨fun ⟨counter, draws⟩ => ?_, trivial⟩
  have isSupply : (database.getSchema name false).2.supply = database.supply := by
    unfold getSchema
    cases database.registry.get? name with
    | none => rfl
    | some schema => rfl
  have draws : database.supply.count counter <
    (database.getSchema name false).2.supply.count counter := draws
  rw [isSupply] at draws
  exact Nat.lt_irrefl _ draws

theorem Orderly.outline_reopened_iff (orderly : database.Orderly) (supply : IdSupply) :
    (database.reopened supply).registry.outline = database.registry.outline ↔
      database.IsBounded := by
  rw [orderly.outline_reopened supply]
  exact orderly.outline_schemas_iff

/-- Calls that draw nothing do not tell whether the database was opened again
exactly if all bounds are finite. -/
theorem Orderly.answers_reopened_iff (orderly : database.Orderly) (supply : IdSupply) :
    (forall calls, database.DrawsNothing calls ->
      (database.reopened supply).answers calls = database.answers calls) ↔
      database.IsBounded := by
  rw [← orderly.outline_reopened_iff supply]
  constructor
  · intro alike
    funext name
    have told := alike [lookUp name] (database.drawsNothing_lookUp name)
    rw [answers_lookUp, answers_lookUp] at told
    exact Except.ok.inj (Answer.schema.inj (List.cons.inj told).1)
  · intro outlines calls quiet
    have alike : database.Resembles (database.reopened supply) := ⟨rfl, rfl, outlines.symm⟩
    exact (alike.answers_eq quiet).symm

/-- A database that was reached by requests can be closed and opened again under
its configuration.  It has the tables that it had then, and its schemas as they
were stored.  Its schemas agree with the stored ones, it has the same schemas
again, and no calls that draw nothing are answered differently, each of these
exactly if all bounds are finite. -/
theorem reopening_unseen_iff {allowed : Database -> Request -> Prop}
    (reachable : Reachable allowed database) (supply : IdSupply) :
    ∃ reopened, openStore database.config database.store supply = .ok reopened ∧
      reopened.config = database.config ∧ reopened.store = database.store ∧
      (forall name, reopened.registry.get? name =
        (database.registry.get? name).map Schema.stored) ∧
      (Registry.outline database.store.schemas = database.registry.outline ↔
        database.IsBounded) ∧
      (reopened.registry.outline = database.registry.outline ↔ database.IsBounded) ∧
      ((forall calls, database.DrawsNothing calls ->
        reopened.answers calls = database.answers calls) ↔ database.IsBounded) := by
  have orderly := orderly_of_reachable reachable
  have isReopened := orderly.openStore_eq supply
  have loaded (name : String) : (database.reopened supply).registry.get? name =
      (database.registry.get? name).map Schema.stored :=
    (orderly.get?_reopened (opened_of_openStore isReopened) name).trans (orderly.alike name)
  exact ⟨database.reopened supply, isReopened, rfl, rfl, loaded, orderly.outline_schemas_iff,
    orderly.outline_reopened_iff supply, orderly.answers_reopened_iff supply⟩

/-- A schema of one feature, a number from zero up to a bound. -/
def measured (high : Number) : Schema :=
  { Schema.ofType "P" with features := [⟨["x"], .numeric (some .zero) (some high) true⟩] }

/-- The database that has only that schema. -/
def measuring (high : Number) : Database :=
  blank.after (.defineSchema "P" { features := some (measured high).features })

theorem reachable_measuring (high : Number) :
    Reachable (fun _ _ => True) (measuring high) :=
  .step (.opened openStore_blank) trivial

theorem registry_measuring (high : Number) :
    (measuring high).registry.rows = [("P", measured high)] :=
  rfl

theorem isBounded_measuring_iff (high : Number) :
    (measuring high).IsBounded ↔ high.isFinite = true := by
  have isRegistered (name : String) (schema : Schema) :
      (measuring high).registry.get? name = some schema ↔ name = "P" ∧ schema = measured high := by
    rw [Table.get?_eq_some_iff, registry_measuring, List.mem_singleton, Prod.mk.injEq]
  constructor
  · intro bounded
    have finite := bounded "P" (measured high) ((isRegistered _ _).mpr ⟨rfl, rfl⟩)
    exact (finite _ List.mem_cons_self).2 high rfl
  · intro isFinite name schema found feature isFeature
    rcases (isRegistered name schema).mp found with ⟨rfl, rfl⟩
    cases List.mem_singleton.mp isFeature
    refine ⟨fun bound isBound => ?_, fun bound isBound => ?_⟩
    · cases isBound
      rfl
    · cases isBound
      exact isFinite

/-- Numbers from zero to one are measured the same behind another opening. -/
theorem reopening_unseen_measuring_one :
    ∃ reopened, openStore (measuring .one).config (measuring .one).store .fresh = .ok reopened ∧
      reopened.store = (measuring .one).store ∧
      reopened.registry.outline = (measuring .one).registry.outline ∧
      forall calls, (measuring .one).DrawsNothing calls ->
        reopened.answers calls = (measuring .one).answers calls := by
  have bounded : (measuring .one).IsBounded := (isBounded_measuring_iff .one).mpr rfl
  rcases reopening_unseen_iff (reachable_measuring .one) .fresh with
    ⟨reopened, isReopened, _, isStore, _, _, outlines, answers⟩
  exact ⟨reopened, isReopened, isStore, outlines.mpr bounded, answers.mpr bounded⟩

/-- Of numbers without an upper bound it is seen that the database has been
opened again. -/
theorem reopening_seen_measuring_infinity :
    Reachable (fun _ _ => True) (measuring .infinity) ∧
      ∃ reopened,
        openStore (measuring .infinity).config (measuring .infinity).store .fresh = .ok reopened ∧
        reopened.registry.outline ≠ (measuring .infinity).registry.outline ∧
        ¬ forall calls, (measuring .infinity).DrawsNothing calls ->
          reopened.answers calls = (measuring .infinity).answers calls := by
  have reachable := reachable_measuring .infinity
  have orderly := orderly_of_reachable reachable
  have unbounded : ¬ (measuring .infinity).IsBounded := by
    rw [isBounded_measuring_iff]
    decide
  exact ⟨reachable, (measuring .infinity).reopened .fresh, orderly.openStore_eq .fresh,
    fun same => unbounded ((orderly.outline_reopened_iff .fresh).mp same),
    fun same => unbounded ((orderly.answers_reopened_iff .fresh).mp same)⟩

end Database

end RecordIndex
