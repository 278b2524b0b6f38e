import RecordIndex.Proofs.Database.Integrity
import RecordIndex.Proofs.Database.Origins
import RecordIndex.Proofs.Database.Untouched
import RecordIndex.Proofs.Value.ReadBack

namespace RecordIndex

/-!
# Moving a record

A move stores a copy of the record under its new key and then removes the
record that it has read from the old one.  If the new key is the old one, the
copy is what is removed, and the record is lost.  This is looked after when the
new key is given, since such a move does nothing, but not when it is drawn.
-/

namespace Request

/-- Nothing that the request stores has a string that is taken for something
undefined, and undefined is kept or not as it was before. -/
structure KeepsValues (database : Database) (request : Request) : Prop where
  isSpelled : forall pending, request.Stores database pending -> pending.value.Spelled
  keepsSetting : forall config supply, request = .reopen config supply ->
    config.keepUndefined = database.config.keepUndefined

end Request

namespace Database

variable {database : Database}

/-- What is read from a record can be stored again. -/
theorem readsBack_of_reachable
    (reachable : Reachable (fun database request => request.KeepsValues database) database) :
    forall key record, database.store.records.get? key = some record ->
      record.value.ReadsBack database.config.keepUndefined := by
  refine Reachable.forall_records (fun database record =>
    record.value.ReadsBack database.config.keepUndefined) ?_ ?_ reachable
  · intro database request pending keeps _ _ stores version
    exact Value.readsBack_decode_encode _ pending.value (keeps.isSpelled pending stores)
  · intro database request record keeps holds
    rcases database.config_after request with same | ⟨config, supply, isReopen, same⟩
    · rw [same]
      exact holds
    · rw [same, keeps.keepsSetting config supply isReopen]
      exact holds

/-- A copy is read as it was stored, unless its key is read as something else
where the copy carries it. -/
theorem readsBack_copiedValue_iff (database : Database) {keepUndefined : Bool}
    {source : StoredRecord} (readsBack : source.value.ReadsBack keepUndefined) (target : String) :
    (database.copiedValue source target).ReadsBack keepUndefined ↔
      (source.typeName.isSome -> source.value.isObject = true ->
        Value.decodeString target = .string target) := by
  unfold copiedValue
  cases source.typeName with
  | none => exact ⟨fun _ => nofun, fun _ => readsBack⟩
  | some name =>
      unfold Schema.rebindIdentity Value.setField
      dsimp only
      split
      · rename_i fields isObject
        rw [isObject] at readsBack ⊢
        rw [Value.readsBack_insert_iff readsBack]
        exact ⟨fun isText _ _ => isText, fun isText => isText rfl rfl⟩
      · rename_i notObject
        refine ⟨fun _ _ isObject => ?_, fun _ => readsBack⟩
        cases isValue : source.value with
        | object fields => exact absurd isValue (notObject fields)
        | _ =>
            rw [isValue] at isObject
            cases isObject

/-! ## What it is to be moved -/

/-- The record has come to lie under the target as what a copy of it is, no
record lies under its old key any more unless that is the target, and all other
records are as they were. -/
structure Moved (database later : Database) (key target : String) (source : StoredRecord) :
    Prop where
  arrives : ∃ record, later.store.records.get? target = some record ∧
    record.typeName = source.typeName ∧ record.value = database.copiedValue source target
  leaves : target ≠ key -> later.store.records.get? key = none
  others : forall other, other ≠ key -> other ≠ target ->
    later.store.records.get? other = database.store.records.get? other

/-- What it takes for a record to be moved.  A record that is moved to where it
is must carry its key already, since it is left as it is.  Any other must be
moved to another key, and one that carries this key to one that is not taken
for a tag. -/
def Movable (database : Database) (key : String) (destination : Option String) (target : String)
    (source : StoredRecord) : Prop :=
  if destination = some key then source.value = database.copiedValue source key
  else target ≠ key ∧ (source.typeName.isSome -> source.value.isObject = true ->
    Value.decodeString target = .string target)

end Database

namespace Write

open Database Transaction

variable {database : Database}

/-! ## Moves that succeed -/

/-- The key of a copy of a record of a type is drawn from the generator of the
type. -/
theorem run_copyKey_drawn {typeName : String}
    (isRegistered : (database.registry.get? typeName).isSome) :
    (copyKey database none (some typeName)).run database.start =
      (.ok ((database.schemaOf typeName).generateId database.supply).1,
        { database.start with
          supply := ((database.schemaOf typeName).generateId database.supply).2 }) := by
  unfold copyKey
  rw [run_bind_ok (run_schema isRegistered (untouched_start database))]
  rfl

/-- A record of the version that is asked for can be copied to a place of its
type that is free or may be overwritten. -/
theorem run_pendingCopy (orderly : database.Orderly) {key : String}
    {destination : Option String} {options : CopyOptions} {source : StoredRecord}
    (isThere : database.store.records.get? key = some source)
    (isAsked : StoredRecord.hasVersion options.ifVersion (some source) = true) {target : String}
    {middle : Transaction} (isTarget : (copyKey database destination source.typeName).run
      database.start = (.ok target, middle))
    (isPlaced : checkPlace target source.typeName = .ok ())
    (isVacant : checkVacant target (database.store.records.get? target) options.overwrite =
      .ok ()) :
    (pendingCopy database key destination options).run database.start =
      (.ok (some (⟨target, database.copiedValue source target, source.typeName, options.version,
        database.store.records.get? target⟩, source)), middle) := by
  have registers : database.Registers source.typeName :=
    (orderly.kept key source isThere).isKnown
  have untouched : middle.Untouched database :=
    (untouched_copyKey registers destination database.start (untouched_start database) target middle
      isTarget).1
  have reads (key : String) {txn : Transaction} (untouched : txn.Untouched database) :
      (record? key).run txn = (.ok (database.store.records.get? key), txn) := by
    rw [← untouched.isStore]
    rfl
  have passes : (liftM (Except.ok () : Except Error Unit) : Write Unit).run middle =
      (.ok (), middle) := rfl
  unfold pendingCopy
  rw [run_bind_ok (reads key (untouched_start database)), isThere]
  dsimp only
  rw [if_pos isAsked, run_bind_ok isTarget, isPlaced, run_bind_ok passes,
    run_bind_ok (reads target untouched), isVacant, run_bind_ok passes,
    run_bind_ok (run_rebindIdentity registers target untouched)]
  rfl

/-- The records after a move: the copy is stored under the target, and whatever
lies under the old key then is removed. -/
theorem ensures_records_move (orderly : database.Orderly) (key : String)
    (destination : Option String) (options : CopyOptions) :
    Ensures (move database key destination options) (fun txn => txn = database.start)
      fun result txn =>
        match result with
        | none => txn.store.records = database.store.records
        | some target => ∃ source copy, database.store.records.get? key = some source ∧
            (∀ chosen ∈ destination, target = chosen) ∧
            copy.typeName = source.typeName ∧
            copy.body = (database.copiedValue source target).encode
              database.config.keepUndefined ∧
            txn.store.records = (database.store.records.insert target copy).erase key := by
  refine (ensures_hasMoved orderly.named key destination options).imp ?_
  intro result txn moved
  cases moved with
  | nothing steady => exact congrArg Store.records steady.isStore
  | @moved pending source _ _ copies _ steady =>
      rcases copies.runs with ⟨middle, ran⟩
      have isCopy := (untouched_pendingCopy orderly key destination options database.start
        (untouched_start database) _ middle ran).2 _ rfl
      refine ⟨source, pending.record database pending.nextVersion, copies.isThere, copies.isTarget,
        isCopy.2.2.1, congrArg (Value.encode _) isCopy.2.2.2, ?_⟩
      rw [steady.isStore, records_withoutRecord, records_withRecord]

end Write

namespace Database

variable {database : Database}

/-- A move that is given the old key as the new one does nothing. -/
theorem move_in_place (database : Database) (key : String) (options : CopyOptions) :
    database.move key (some key) options =
      (.ok ((database.store.records.get? key).map fun _ => key), database) := by
  unfold move get?
  rw [if_pos rfl, Option.map_map]
  rfl

/-- A record that can be copied can be moved, and the key of the copy is given
back. -/
theorem move_succeeds (orderly : database.Orderly) {key : String}
    {destination : Option String} {options : CopyOptions} {source : StoredRecord}
    (elsewhere : destination ≠ some key)
    (isThere : database.store.records.get? key = some source)
    (isAsked : StoredRecord.hasVersion options.ifVersion (some source) = true) {target : String}
    {middle : Transaction} (isTarget : (Write.copyKey database destination source.typeName).run
      database.start = (.ok target, middle))
    (isPlaced : Write.checkPlace target source.typeName = .ok ())
    (isVacant : Write.checkVacant target (database.store.records.get? target) options.overwrite =
      .ok ()) : (database.move key destination options).1 = .ok (some target) := by
  have finds := Write.run_pendingCopy orderly isThere isAsked isTarget isPlaced isVacant
  rcases Write.succeeds_putRecord database ⟨target, database.copiedValue source target,
    source.typeName, options.version, database.store.records.get? target⟩ middle with
    ⟨_, stored, puts⟩
  rcases Write.succeeds_removeRecord database key source stored with ⟨_, final, removes⟩
  have copies : (Write.copyRecord database key destination options).run database.start =
      (.ok (some (target, source)), stored) := by
    unfold Write.copyRecord
    rw [Write.run_bind_ok finds]
    exact Write.run_bind_ok puts
  have ran : (Write.move database key destination options).run database.start =
      (.ok (some target), final) := by
    unfold Write.move
    rw [Write.run_bind_ok copies]
    exact Write.run_bind_ok removes
  have isMove : database.move key destination options =
      database.write (Write.move database key destination options) := if_neg elsewhere
  rw [isMove, write_of_ok ran]

/-- The record is moved when the copy under the target is read as what was
copied, and is not removed with what it was copied from. -/
theorem moved_iff {later : Database} {key target : String} {source copy : StoredRecord}
    {keepUndefined : Bool} (readsBack : source.value.ReadsBack keepUndefined)
    (isType : copy.typeName = source.typeName)
    (isBody : copy.body = (database.copiedValue source target).encode keepUndefined)
    (isRecords : later.store.records = (database.store.records.insert target copy).erase key) :
    database.Moved later key target source ↔
      target ≠ key ∧ (source.typeName.isSome -> source.value.isObject = true ->
        Value.decodeString target = .string target) := by
  rw [← database.readsBack_copiedValue_iff readsBack target]
  have isValue : copy.value =
      Value.decode ((database.copiedValue source target).encode keepUndefined) :=
    congrArg Value.decode isBody
  by_cases elsewhere : target ≠ key
  · have found : later.store.records.get? target = some copy := by
      rw [isRecords, Table.get?_erase_of_ne elsewhere, Table.get?_insert_self]
    constructor
    · intro moved
      rcases moved.arrives with ⟨record, isRecord, _, sameValue⟩
      cases found.symm.trans isRecord
      exact ⟨elsewhere, isValue.symm.trans sameValue⟩
    · rintro ⟨_, sameValue⟩
      refine ⟨⟨copy, found, isType, isValue.trans sameValue⟩, fun _ => ?_, ?_⟩
      · rw [isRecords, Table.get?_erase_self]
      · intro other notKey notTarget
        rw [isRecords, Table.get?_erase_of_ne notKey, Table.get?_insert_of_ne notTarget]
  · rw [ne_eq, Decidable.not_not] at elsewhere
    subst elsewhere
    refine ⟨fun moved => ?_, fun both => absurd rfl both.1⟩
    rcases moved.arrives with ⟨record, isRecord, _⟩
    rw [isRecords, Table.get?_erase_self] at isRecord
    cases isRecord

/-- The records after a move elsewhere, by what it gives back. -/
theorem records_move (orderly : database.Orderly) {key : String} {destination : Option String}
    (options : CopyOptions) (elsewhere : destination ≠ some key) :
    (forall target, (database.move key destination options).1 = .ok (some target) ->
      ∃ source copy, database.store.records.get? key = some source ∧
        (∀ chosen ∈ destination, target = chosen) ∧ copy.typeName = source.typeName ∧
        copy.body = (database.copiedValue source target).encode database.config.keepUndefined ∧
        (database.move key destination options).2.store.records =
          (database.store.records.insert target copy).erase key) ∧
    ((forall target, (database.move key destination options).1 ≠ .ok (some target)) ->
      (database.move key destination options).2.store.records = database.store.records) := by
  have isMove : database.move key destination options =
      database.write (Write.move database key destination options) := if_neg elsewhere
  rw [isMove]
  rcases database.write_cases (Write.move database key destination options) with
    ⟨cause, txn, _, isWrite⟩ | ⟨result, txn, ran, isWrite⟩
  · rw [isWrite]
    exact ⟨nofun, fun _ => rfl⟩
  · have ensured := Write.ensures_records_move orderly key destination options database.start rfl
      result txn ran
    rw [isWrite]
    dsimp only
    rw [records_commit]
    cases result with
    | none => exact ⟨nofun, fun _ => ensured⟩
    | some moved =>
        refine ⟨fun target isTarget => ?_, fun none => absurd rfl (none moved)⟩
        cases isTarget
        exact ensured

/-- A move that gives back a key has moved a record there exactly when it was
movable, and any other move leaves the records as they are. -/
theorem move_iff
    (reachable : Reachable (fun database request => request.KeepsValues database) database)
    (key : String) (destination : Option String) (options : CopyOptions) :
    (forall target, (database.move key destination options).1 = .ok (some target) ->
      ∃ source, database.store.records.get? key = some source ∧
        (∀ chosen ∈ destination, target = chosen) ∧
        (database.Moved (database.move key destination options).2 key target source ↔
          database.Movable key destination target source)) ∧
    ((forall target, (database.move key destination options).1 ≠ .ok (some target)) ->
      (database.move key destination options).2.store.records = database.store.records) := by
  unfold Movable
  by_cases inPlace : destination = some key
  · subst inPlace
    rw [move_in_place]
    refine ⟨fun target isTarget => ?_, fun _ => rfl⟩
    rcases Option.map_eq_some_iff.mp (Except.ok.inj isTarget) with ⟨source, isSource, rfl⟩
    refine ⟨source, isSource, fun _ same => Option.some.inj same, ?_⟩
    rw [if_pos rfl]
    constructor
    · intro moved
      rcases moved.arrives with ⟨record, isRecord, _, sameValue⟩
      cases isSource.symm.trans isRecord
      exact sameValue
    · intro sameValue
      exact ⟨⟨source, isSource, rfl, sameValue⟩, fun different => absurd rfl different,
        fun _ _ _ => rfl⟩
  · have moves := records_move (orderly_of_reachable reachable) options inPlace
    refine ⟨fun target isTarget => ?_, moves.2⟩
    rcases moves.1 target isTarget with
      ⟨source, copy, isSource, isChosen, isType, isBody, isRecords⟩
    refine ⟨source, isSource, isChosen, ?_⟩
    rw [if_neg inPlace]
    exact moved_iff (readsBack_of_reachable reachable key source isSource) isType isBody isRecords

/-! ## Moves of a first record -/

theorem keepsValues_firstPut : firstPut.KeepsValues blank where
  isSpelled := by
    rintro pending ⟨txn, ran⟩
    rw [run_firstPut] at ran
    cases ran
    exact ⟨(by decide : "P@1" ≠ Value.undefinedTag), (by decide : "john" ≠ Value.undefinedTag),
      trivial⟩
  keepsSetting := nofun

/-- The first record is moved to another key of its type. -/
theorem moved_firstPut :
    ((blank.after firstPut).move "P@1" (some "P@2") {}).1 = .ok (some "P@2") ∧
      (blank.after firstPut).Moved ((blank.after firstPut).move "P@1" (some "P@2") {}).2 "P@1"
        "P@2" john := by
  have reachable : Reachable (fun database request => request.KeepsValues database)
      (blank.after firstPut) := .step (.opened openStore_blank) keepsValues_firstPut
  have isFree : (blank.after firstPut).store.records.get? "P@2" = none := by
    rw [Table.get?, records_after_firstPut]
    rfl
  have gives : ((blank.after firstPut).move "P@1" (some "P@2") {}).1 = .ok (some "P@2") :=
    move_succeeds (orderly_of_reachable reachable) (by decide) found_firstPut rfl rfl
      ((Store.isPlaced_iff "P@2" "P").mpr ⟨['2'], rfl⟩) (by rw [isFree]; rfl)
  rcases (move_iff reachable "P@1" (some "P@2") {}).1 "P@2" gives with ⟨source, isSource, _, moves⟩
  cases found_firstPut.symm.trans isSource
  exact ⟨gives, moves.mpr ((if_neg (by decide)).mpr ⟨by decide, fun _ _ => rfl⟩)⟩

/-- To have the keys of a type drawn from a generator with a single name. -/
def nameAll : Request :=
  .defineSchema "P" { generator := some ⟨1, fun _ => "k1"⟩ }

/-- To store a named person under that name. -/
def namedPut : Request :=
  .put (some "P@k1") (.object [("name", .string "john")]) { typeName := some "P" }

theorem after_nameAll : blank.after nameAll =
    blank.withSchema { Schema.ofType "P" with generator := ⟨1, fun _ => "k1"⟩ } :=
  write_defineSchema blank _

theorem checkPlace_namedPut : Write.checkPlace "P@k1" (some "P") = .ok () :=
  (Store.isPlaced_iff "P@k1" "P").mpr ⟨['k', '1'], rfl⟩

theorem run_namedPut : (namedPut.pending (blank.after nameAll)).run (blank.after nameAll).start =
    (.ok (some ⟨"P@k1", .object [("#", .string "P@k1"), ("name", .string "john")], some "P", none,
      none⟩), (blank.after nameAll).start) := by
  rw [after_nameAll]
  change (Write.pendingPut _ (some "P@k1") _ _).run _ = _
  unfold Write.pendingPut
  simp [Write.putKey, Write.record?, checkPlace_namedPut]
  rfl

theorem keepsValues_nameAll : nameAll.KeepsValues blank where
  isSpelled := nofun
  keepsSetting := nofun

theorem keepsValues_namedPut : namedPut.KeepsValues (blank.after nameAll) where
  isSpelled := by
    rintro pending ⟨txn, ran⟩
    rw [run_namedPut] at ran
    cases ran
    exact ⟨(by decide : "P@k1" ≠ Value.undefinedTag), (by decide : "john" ≠ Value.undefinedTag),
      trivial⟩
  keepsSetting := nofun

theorem records_after_namedPut :
    ((blank.after nameAll).after namedPut).store.records.rows =
      [("P@k1", ⟨1, some "P", .object [("#", .string "P@k1"), ("name", .string "john")]⟩)] := by
  unfold namedPut
  rw [after_put run_namedPut rfl, after_nameAll]
  rfl

theorem registry_after_namedPut :
    ((blank.after nameAll).after namedPut).registry.get? "P" =
      some { Schema.ofType "P" with generator := ⟨1, fun _ => "k1"⟩ } := by
  unfold namedPut
  rw [after_put run_namedPut rfl, after_nameAll]
  rfl

/-- Moved under a drawn key that happens to be its own, the record is lost. -/
theorem not_moved_namedPut :
    Reachable (fun database request => request.KeepsValues database)
        ((blank.after nameAll).after namedPut) ∧
      (((blank.after nameAll).after namedPut).move "P@k1" none { overwrite := true }).1 =
        .ok (some "P@k1") ∧
      ∀ source, ¬ ((blank.after nameAll).after namedPut).Moved
        (((blank.after nameAll).after namedPut).move "P@k1" none { overwrite := true }).2 "P@k1"
          "P@k1" source := by
  have reachable : Reachable (fun database request => request.KeepsValues database)
      ((blank.after nameAll).after namedPut) :=
    .step (.step (.opened openStore_blank) keepsValues_nameAll) keepsValues_namedPut
  have orderly := orderly_of_reachable reachable
  have isThere : ((blank.after nameAll).after namedPut).store.records.get? "P@k1" =
      some ⟨1, some "P", .object [("#", .string "P@k1"), ("name", .string "john")]⟩ := by
    rw [Table.get?, records_after_namedPut]
    rfl
  have isRegistered : (((blank.after nameAll).after namedPut).registry.get? "P").isSome := by
    rw [registry_after_namedPut]
    rfl
  have isSchema : ((blank.after nameAll).after namedPut).schemaOf "P" =
      { Schema.ofType "P" with generator := ⟨1, fun _ => "k1"⟩ } := by
    unfold schemaOf
    rw [registry_after_namedPut]
    rfl
  have drawn : none ≠ some "P@k1" := (Option.some_ne_none _).symm
  have draws := Write.run_copyKey_drawn isRegistered
  have isDrawn : ((((blank.after nameAll).after namedPut).schemaOf "P").generateId
      ((blank.after nameAll).after namedPut).supply).1 = "P@k1" := by
    rw [isSchema]
    rfl
  rw [isDrawn] at draws
  have gives : (((blank.after nameAll).after namedPut).move "P@k1" none { overwrite := true }).1 =
      .ok (some "P@k1") :=
    move_succeeds orderly drawn isThere rfl draws checkPlace_namedPut (by rw [isThere]; rfl)
  refine ⟨reachable, gives, fun source moved => ?_⟩
  rcases (records_move orderly { overwrite := true } drawn).1 "P@k1" gives with
    ⟨_, copy, _, _, _, _, isRecords⟩
  rcases moved.arrives with ⟨record, isRecord, _⟩
  rw [isRecords, Table.get?_erase_self] at isRecord
  cases isRecord

end Database

end RecordIndex
