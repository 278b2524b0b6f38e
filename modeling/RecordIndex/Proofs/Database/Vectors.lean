import RecordIndex.Proofs.Database.Renewing
import RecordIndex.Proofs.Database.Versions

namespace RecordIndex

/-!
# Vectors and their records

No request leaves a vector without its record.  A record that is stored gets
the vector that the schema of its type makes of its value, once it has learned
from it.  This fails only for what the store takes for a number: it keeps a row
without one for a vector that is hollow.  And a record that is moved onto
itself is gone, whatever vector it should have.
-/

namespace Store

/-- Every vector is one of a record that is there. -/
def Attached (store : Store) : Prop :=
  forall key, (store.vectors.get? key).isSome -> (store.records.get? key).isSome

variable {store : Store}

/-- The vectors of records that are there may be replaced. -/
theorem Attached.putVectors (attached : store.Attached)
    (vectorOf : StoredRecord -> FeatureVector) {rows : List (String × StoredRecord)}
    (nodup : (rows.map Prod.fst).Nodup)
    (areThere : ∀ row ∈ rows, (store.records.get? row.1).isSome) :
    (rows.foldl (fun store row => store.putVector row.1 (vectorOf row.2)) store).Attached := by
  intro key isVector
  rw [get?_vectors_putVectors vectorOf nodup] at isVector
  rcases Database.putVectors_eq store vectorOf rows with ⟨vectors, folded⟩
  rw [folded]
  split at isVector
  · rename_i record isRow
    exact areThere _ (Rows.mem_of_get? isRow)
  · exact attached key isVector

end Store

namespace Database

variable {database : Database} {request : Request}

/-! ## No vector without a record -/

theorem vectors_withRecord (database : Database) (store : Store) (pending : PendingRecord)
    (version : Nat) (vector : FeatureVector) (key : String) :
    (database.withRecord store pending version vector).vectors.get? key =
      if key = pending.key then FeatureVector.keptRow? vector else store.vectors.get? key :=
  Store.get?_vectors_putVector store pending.key vector key

theorem vectors_withoutRecord (database : Database) (store : Store) (key : String)
    (previous : StoredRecord) :
    (database.withoutRecord store key previous).vectors = store.vectors.erase key :=
  rfl

theorem attached_withRecord (database : Database) {store : Store} (attached : store.Attached)
    (pending : PendingRecord) (version : Nat) (vector : FeatureVector) :
    (database.withRecord store pending version vector).Attached := by
  intro key isVector
  rw [records_withRecord]
  rw [vectors_withRecord] at isVector
  by_cases same : key = pending.key
  · rw [same, Table.get?_insert_self]
    rfl
  · rw [if_neg same] at isVector
    rw [Table.get?_insert_of_ne same]
    exact attached key isVector

theorem attached_withoutRecord (database : Database) {store : Store} (attached : store.Attached)
    (key : String) (previous : StoredRecord) :
    (database.withoutRecord store key previous).Attached := by
  intro other isVector
  rw [records_withoutRecord]
  rw [vectors_withoutRecord] at isVector
  by_cases same : other = key
  · rw [same, Table.get?_erase_self] at isVector
    cases isVector
  · rw [Table.get?_erase_of_ne same] at isVector ⊢
    exact attached other isVector

theorem attached_outcome (attached : database.store.Attached) {store : Store}
    {known : Option String} (outcome : Outcome database request store known) : store.Attached := by
  cases outcome with
  | unchanged => exact attached
  | stored stores fits version vector => exact attached_withRecord database attached _ _ _
  | removed isThere => exact attached_withoutRecord database attached _ _
  | moved stores fits isThere apart version vector =>
      exact attached_withoutRecord database (attached_withRecord database attached _ _ _) _ _

theorem attached_write (attached : database.store.Attached) {Result : Type} {action : Write Result}
    (leads : Write.Ensures action (fun txn => txn = database.start)
      fun _ txn => Write.Leads database request txn) :
    (database.write action).2.store.Attached := by
  rcases database.write_cases action with ⟨cause, txn, _, isWrite⟩ | ⟨result, txn, ran, isWrite⟩
  · rw [isWrite]
    exact attached
  · rw [isWrite]
    rcases leads database.start rfl result txn ran with ⟨store, known, outcome, steady⟩
    unfold Store.Attached
    rw [vectors_commit, records_commit, steady.isStore]
    exact attached_outcome attached outcome

theorem attached_withSchema (attached : database.store.Attached) (schema : Schema) :
    (database.withSchema schema).store.Attached := by
  rcases reindexed_eq database schema with ⟨byPath, byValue, isStore⟩
  unfold withSchema
  rw [isStore]
  exact attached

theorem attached_reindexVectors (attached : database.store.Attached) (typeName : String) :
    (database.reindexVectors typeName).2.store.Attached := by
  unfold reindexVectors
  split
  · exact attached
  · exact attached
  · rename_i schema _
    have nodup := (database.store.ascending_underIdentities typeName).nodup_keys
    refine attached.putVectors (fun record => schema.vector record.value) nodup ?_
    rintro ⟨key, record⟩ isRow
    exact Option.isSome_of_mem (Store.mem_underIdentities_iff.mp isRow).1

/-- Every request leaves the vectors with their records. -/
theorem Orderly.attached_after (orderly : database.Orderly) (attached : database.store.Attached)
    (request : Request) : (database.after request).store.Attached := by
  have named := orderly.named
  cases request with
  | reopen config supply =>
      unfold after
      dsimp only
      split
      · rename_i reopened accepted
        rw [(opened_of_openStore accepted).isStore]
        exact attached
      · exact attached
  | put key value options =>
      exact attached_write attached (Write.ensures_put named key value options)
  | patch key changes version ifVersion =>
      exact attached_write attached (Write.ensures_patch named key changes version ifVersion
        (orderly.isPlaced key))
  | remove key ifVersion =>
      exact attached_write attached (Write.ensures_remove named key ifVersion)
  | copy key destination options =>
      exact attached_write attached (Write.ensures_copy named key destination options)
  | move key destination options =>
      change (database.move key destination options).2.store.Attached
      unfold move
      split
      · exact attached
      · rename_i elsewhere
        exact attached_write attached (Write.ensures_move named key destination options elsewhere)
  | defineSchema typeName options =>
      change (database.write _).2.store.Attached
      rw [write_defineSchema]
      exact attached_withSchema attached _
  | getSchema typeName create =>
      change (database.getSchema typeName create).2.store.Attached
      unfold getSchema
      split
      · exact attached
      · split
        all_goals exact attached
  | reindexVectors typeName => exact attached_reindexVectors attached typeName
  | newGenerator nth => exact attached

theorem attached_of_reachable {allowed : Database -> Request -> Prop}
    (reachable : Reachable allowed database) : database.store.Attached := by
  induction reachable with
  | opened accepted =>
      rw [(opened_of_openStore accepted).isStore]
      exact fun _ => nofun
  | step reachable _ ih => exact (orderly_of_reachable reachable).attached_after ih _

/-- The vector of a value, by the schema that its type has. -/
def vectorOf (database : Database) (typeName : Option String) (value : Value) : FeatureVector :=
  if database.config.vectors then
    ((typeName.bind database.registry.get?).map fun schema => schema.vector value).getD []
  else []

/-- The schemas that a transaction has come to are those that it publishes. -/
theorem vectorOf_commit {txn : Transaction} (named : Named txn.schemas) (typeName : Option String)
    (value : Value) :
    (database.commit txn).vectorOf typeName value = txn.vectorOf database typeName value := by
  have published : (database.commit txn).registry.get? = txn.schema? database :=
    funext (get?_defineAll named database.registry)
  unfold vectorOf Transaction.vectorOf
  rw [published]
  rfl

end Database

namespace Request

/-- The key under which a call has stored a record, by its answer. -/
def storedKey? (database : Database) : Request -> Option String
  | .remove _ _ => none
  | request => (request.written database).head?

end Request

namespace Write

open Database Transaction

variable {database : Database}

/-- The record that the request has stored under the key has the row that is
kept for its vector, or has been taken away with it. -/
structure Charts (database : Database) (request : Request) (key : String) (txn : Transaction) :
    Prop where
  named : Named txn.schemas
  isRow : ∃ pending, request.Stores database pending ∧ pending.key = key ∧
    txn.store.vectors.get? key =
      if request.takesAway key then none
      else FeatureVector.keptRow? (txn.vectorOf database pending.typeName pending.value)

theorem charts_of_steady {request : Request} {pending : PendingRecord} {version : Nat}
    {known : Option String} {txn : Transaction} (stores : request.Stores database pending)
    (staysThere : request.takesAway pending.key = false)
    (steady : txn.Steady database (database.withRecord database.store pending version
      (txn.vectorOf database pending.typeName pending.value)) known) :
    Charts database request pending.key txn := by
  refine ⟨named_of_steady steady, pending, stores, rfl, ?_⟩
  rw [steady.isStore, vectors_withRecord, if_pos rfl, staysThere, if_neg Bool.false_ne_true]

/-- What is stored is given its vector. -/
theorem HasStored.charts {Result : Type} {request : Request}
    {finds : Write (Option PendingRecord)} {isKey : PendingRecord -> Prop}
    {nothing result : Result} {something : PendingRecord -> Result} {txn : Transaction}
    (stored : HasStored database finds isKey nothing something result txn)
    (isPending : request.pending database = finds)
    (staysThere : forall key, request.takesAway key = false)
    (keys : Result -> List String) (noKeys : keys nothing = [])
    (keysOf : forall pending, isKey pending -> keys (something pending) = [pending.key]) :
    ∀ key ∈ (keys result).head?, Charts database request key txn := by
  intro key isStored
  cases stored with
  | nothing _ =>
      rw [noKeys] at isStored
      cases isStored
  | @stored pending _ runs known steady =>
      rw [keysOf pending known] at isStored
      cases isStored
      exact charts_of_steady (stores_of_finds isPending runs) (staysThere _) steady

theorem ensures_charts_copy (named : Named database.registry) (key : String)
    (destination : Option String) (options : CopyOptions) :
    Ensures (copy database key destination options) (fun txn => txn = database.start)
      fun result txn => ∀ target ∈ result.toList.head?,
        Charts database (.copy key destination options) target txn := by
  unfold copy
  refine (ensures_copyRecord named key destination options).bind fun result => ?_
  refine Ensures.pure fun txn copied target isTarget => ?_
  cases copied with
  | nothing _ => cases isTarget
  | copied copies =>
      cases isTarget
      exact charts_of_steady (copies.stores rfl) rfl copies.steady

/-- A removal asks for the schema of the type of the record, which is
registered, so it makes none. -/
theorem ensures_removeRecord_schemas {key : String} {previous : StoredRecord}
    (registers : database.Registers previous.typeName) (schemas : Registry) :
    Ensures (removeRecord database key previous) (fun txn => txn.schemas = schemas)
      fun _ txn => txn.schemas = schemas := by
  have asks (name : String) (isRegistered : (database.registry.get? name).isSome) :
      Ensures (schema database name) (fun txn => txn.schemas = schemas)
        fun _ txn => txn.schemas = schemas := by
    unfold schema
    refine Ensures.withState fun txn same => ?_
    split
    · exact Ensures.pure fun final isSame => isSame ▸ same
    · split
      · exact Ensures.pure fun final isSame => isSame ▸ same
      · rename_i unknown
        rw [unknown] at isRegistered
        cases isRegistered
  have finds : Ensures (storedTerms database (some previous)) (fun txn => txn.schemas = schemas)
      fun _ txn => txn.schemas = schemas := by
    unfold storedTerms
    dsimp only
    split
    · exact Ensures.pure fun _ same => same
    · rename_i name typed
      exact (asks name (registers name typed)).bind fun _ => Ensures.pure fun _ same => same
  exact finds.bind fun _ => Ensures.modify fun _ same => same

theorem ensures_charts_move (orderly : database.Orderly) (key : String)
    (destination : Option String) (options : CopyOptions) :
    Ensures (move database key destination options) (fun txn => txn = database.start)
      fun result txn => ∀ target ∈ (result.toList.flatMap fun target => [target, key]).head?,
        Charts database (.move key destination options) target txn := by
  refine (ensures_hasMoved orderly.named key destination options).imp ?_
  intro result txn moved target isTarget
  cases moved with
  | nothing _ => cases isTarget
  | @moved pending source between _ copies removes steady =>
      cases isTarget
      have registers : database.Registers source.typeName :=
        (orderly.kept key source copies.isThere).isKnown
      have sameSchemas : txn.schemas = between.schemas :=
        ensures_removeRecord_schemas registers between.schemas between rfl () txn removes
      have sameVector : txn.vectorOf database pending.typeName pending.value =
          between.vectorOf database pending.typeName pending.value := by
        unfold Transaction.vectorOf Transaction.schema?
        rw [sameSchemas]
      refine ⟨named_of_steady steady, pending, copies.stores rfl, rfl, ?_⟩
      rw [steady.isStore, vectors_withoutRecord, sameVector]
      by_cases same : pending.key = key
      · have takesAway : (Request.move key destination options).takesAway pending.key = true :=
          decide_eq_true same
        rw [takesAway, if_pos rfl, same, Table.get?_erase_self]
      · have staysThere : (Request.move key destination options).takesAway pending.key = false :=
          decide_eq_false same
        rw [staysThere, if_neg Bool.false_ne_true, Table.get?_erase_of_ne same, vectors_withRecord,
          if_pos rfl]

end Write

namespace Request

variable {database : Database} {request : Request}

/-- A request stores at most one record. -/
theorem Stores.unique {first second : PendingRecord} (stores : request.Stores database first)
    (storesToo : request.Stores database second) : first = second := by
  rcases stores with ⟨_, ran⟩
  rcases storesToo with ⟨_, ranToo⟩
  rw [ran] at ranToo
  cases ranToo
  rfl

/-- Behind the request, every vector is one of a record that is there, and the
record that was stored has the vector that its type makes of its value by
then. -/
structure ChartsRecords (database : Database) (request : Request) : Prop where
  attached : (database.after request).store.Attached
  charted : forall key, request.storedKey? database = some key ->
    ∃ pending, request.Stores database pending ∧ pending.key = key ∧
      (database.after request).store.vectors.get? key =
        FeatureVector.row? ((database.after request).vectorOf pending.typeName pending.value)

end Request

namespace Database

variable {database : Database} {request : Request}

/-- What an action ensures of the record that it stores holds behind the write. -/
theorem vector_write {Result : Type} {action : Write Result} {keys : Result -> List String}
    {key : String} (isStored : (Request.writtenBy keys (database.write action).1).head? = some key)
    (ensures : Write.Ensures action (fun txn => txn = database.start)
      fun result txn => ∀ key ∈ (keys result).head?, Write.Charts database request key txn) :
    ∃ pending, request.Stores database pending ∧ pending.key = key ∧
      (database.write action).2.store.vectors.get? key =
        if request.takesAway key then none
        else FeatureVector.keptRow?
          ((database.write action).2.vectorOf pending.typeName pending.value) := by
  rcases database.write_cases action with ⟨cause, txn, _, isWrite⟩ | ⟨result, txn, ran, isWrite⟩
  · rw [isWrite] at isStored
    cases isStored
  · rw [isWrite] at isStored ⊢
    rcases ensures database.start rfl result txn ran key isStored with
      ⟨named, pending, stores, isKey, isRow⟩
    refine ⟨pending, stores, isKey, ?_⟩
    rw [vectors_commit, vectorOf_commit named]
    exact isRow

/-- A record that a request stores gets the row that is kept for its vector,
unless the request takes it away. -/
theorem Orderly.vector_after (orderly : database.Orderly) {key : String}
    (isStored : request.storedKey? database = some key) :
    ∃ pending, request.Stores database pending ∧ pending.key = key ∧
      (database.after request).store.vectors.get? key =
        if request.takesAway key then none
        else FeatureVector.keptRow?
          ((database.after request).vectorOf pending.typeName pending.value) := by
  have named := orderly.named
  cases request with
  | put key value options =>
      exact vector_write isStored ((Write.ensures_hasStored_put named key value options).imp
        fun _ _ stored => stored.charts rfl (fun _ => rfl) Option.toList rfl fun _ _ => rfl)
  | patch key changes version ifVersion =>
      exact vector_write isStored ((Write.ensures_hasStored_patch named key changes version
        ifVersion (orderly.isPlaced key)).imp fun _ _ stored =>
          stored.charts rfl (fun _ => rfl) (fun patched => if patched then [key] else []) rfl
            fun _ known => congrArg (fun key => [key]) known.2.symm)
  | copy key destination options =>
      exact vector_write isStored (Write.ensures_charts_copy named key destination options)
  | move key destination options =>
      change (if destination = some key then [] else _).head? = some _ at isStored
      split at isStored
      · cases isStored
      · rename_i elsewhere
        have isMove : database.move key destination options =
            database.write (Write.move database key destination options) := if_neg elsewhere
        have isAfter : database.after (.move key destination options) =
            (database.write (Write.move database key destination options)).2 :=
          congrArg Prod.snd isMove
        rw [isMove] at isStored
        rw [isAfter]
        exact vector_write isStored (Write.ensures_charts_move orderly key destination options)
  | _ => cases isStored

/-- The records have their vectors behind a request exactly when the vector of
the record that it stores, if it stores one, is not hollow, or if the request
takes that record away, is none to be kept. -/
theorem chartsRecords_iff (reachable : Reachable (fun _ _ => True) database) (request : Request) :
    request.ChartsRecords database ↔
      forall pending, request.Stores database pending ->
        request.storedKey? database = some pending.key ->
          if request.takesAway pending.key then
            FeatureVector.row?
              ((database.after request).vectorOf pending.typeName pending.value) = none
          else ¬ FeatureVector.IsHollow
            ((database.after request).vectorOf pending.typeName pending.value) := by
  have orderly := orderly_of_reachable reachable
  constructor
  · intro charts pending stores isStored
    rcases charts.charted _ isStored with ⟨_, storesToo, _, isCharted⟩
    rcases orderly.vector_after isStored with ⟨_, storesHere, _, isRow⟩
    cases storesToo.unique stores
    cases storesHere.unique stores
    rw [isCharted] at isRow
    split
    · rename_i takesAway
      rw [isRow, if_pos takesAway]
    · rename_i staysThere
      rw [if_neg staysThere] at isRow
      exact (FeatureVector.keptRow?_eq_row?_iff _).mp isRow.symm
  · intro hasRow
    refine ⟨orderly.attached_after (attached_of_reachable reachable) request, ?_⟩
    intro key isStored
    rcases orderly.vector_after isStored with ⟨pending, stores, rfl, isRow⟩
    have holds := hasRow pending stores isStored
    refine ⟨pending, stores, rfl, isRow.trans ?_⟩
    split
    · rename_i takesAway
      rw [if_pos takesAway] at holds
      exact holds.symm
    · rename_i staysThere
      rw [if_neg staysThere] at holds
      exact (FeatureVector.keptRow?_eq_row?_iff _).mpr holds

/-! ## A vector that is a number, and one that is not -/

/-- A value that is put is stored under the key that was found for it. -/
theorem storedKey?_put {key : Option String} {value : Value} {options : PutOptions}
    {pending : PendingRecord} {middle final : Transaction}
    (found : (Write.pendingPut database key value options).run database.start =
      (.ok (some pending), middle))
    (stored : (Write.putRecord database pending).run middle = (.ok (), final)) :
    (Request.put key value options).storedKey? database = some pending.key := by
  have runs : (Write.put database key value options).run database.start =
      (.ok (some pending.key), final) := by
    unfold Write.put
    rw [Write.run_bind_ok found]
    exact Write.run_bind_ok stored
  change (Request.writtenBy Option.toList (database.write _).1).head? = _
  rw [write_of_ok runs]
  rfl

/-- The person is stored with a vector that tells the name. -/
theorem chartsRecords_firstPut :
    firstPut.ChartsRecords (charting.after chartNames) ∧
      firstPut.storedKey? (charting.after chartNames) = some "P@1" ∧
      chartedJohn.store.vectors.get? "P@1" = some [some .one] := by
  have reachable : Reachable (fun _ _ => True) (charting.after chartNames) :=
    .step (.opened openStore_charting) trivial
  refine ⟨(chartsRecords_iff reachable firstPut).mpr ?_, storedKey?_put run_firstPut_chartNames rfl,
    ?_⟩
  · rintro pending ⟨txn, ran⟩ _
    rw [run_firstPut_chartNames] at ran
    cases ran
    have isVector : chartedJohn.vectorOf (some "P")
        (.object [("#", .string "P@1"), ("name", .string "john")]) = [some .one] := by
      unfold vectorOf
      rw [keepsVectors_chartedJohn, Option.bind_some, isSchema_chartedJohn]
      decide
    change ¬ FeatureVector.IsHollow (chartedJohn.vectorOf _ _)
    rw [isVector]
    exact fun hollow => absurd (hollow.2 .one List.mem_cons_self) (by decide)
  · rw [Table.get?, vectors_chartedJohn]
    rfl

/-- A schema of one feature, a size with a bound that is about as far below zero
as numbers go. -/
def sizeSchema (high : Option Number) : Schema :=
  { Schema.ofType "P" with features := [⟨["n"], .numeric (some ⟨0xffe0000000000000⟩) high false⟩] }

/-- To have vectors made of sizes. -/
def chartSizes : Request :=
  .defineSchema "P" { features := some (sizeSchema none).features }

/-- To store a size that is as far above zero. -/
def sizePut : Request :=
  .put (some "P@1") (.object [("n", .number ⟨0x7fe0000000000000⟩)]) { typeName := some "P" }

theorem run_sizePut : (sizePut.pending (charting.after chartSizes)).run
    (charting.after chartSizes).start =
      (.ok (some ⟨"P@1", .object [("#", .string "P@1"), ("n", .number ⟨0x7fe0000000000000⟩)],
        some "P", none, none⟩), (charting.after chartSizes).start) := by
  change (Write.pendingPut _ (some "P@1") _ _).run _ = _
  unfold Write.pendingPut
  simp [Write.putKey, Write.record?, checkPlace_firstPut]
  rfl

/-- The room between the two sizes is not finite, so the vector has a place that
is not a number, and is kept for a place that is filled. -/
theorem not_chartsRecords_sizePut :
    Reachable (fun _ _ => True) (charting.after chartSizes) ∧
      ¬ sizePut.ChartsRecords (charting.after chartSizes) := by
  have reachable : Reachable (fun _ _ => True) (charting.after chartSizes) :=
    .step (.opened openStore_charting) trivial
  refine ⟨reachable, fun charts => ?_⟩
  have isStored : sizePut.storedKey? (charting.after chartSizes) = some "P@1" :=
    storedKey?_put run_sizePut rfl
  have notHollow := (chartsRecords_iff reachable sizePut).mp charts _ ⟨_, run_sizePut⟩ isStored
  have isVector : ((charting.after chartSizes).after sizePut).vectorOf (some "P")
      (.object [("#", .string "P@1"), ("n", .number ⟨0x7fe0000000000000⟩)]) =
        [some ⟨0x7fc00000⟩] := by
    unfold vectorOf sizePut
    rw [after_put run_sizePut rfl]
    change (if true then _ else []) = _
    rw [if_pos rfl]
    change (sizeSchema (some ⟨0x7fe0000000000000⟩)).vector _ = _
    decide
  rw [if_neg (show ¬ sizePut.takesAway "P@1" = true from nofun), isVector] at notHollow
  refine notHollow ⟨⟨_, List.mem_cons_self⟩, fun x isPlace => ?_⟩
  cases Option.some.inj (List.mem_singleton.mp isPlace)
  decide

end Database

end RecordIndex
