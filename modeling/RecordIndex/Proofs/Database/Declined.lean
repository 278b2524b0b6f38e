import RecordIndex.Proofs.Database.Integrity
import RecordIndex.Proofs.Database.Untouched

namespace RecordIndex

/-!
# Requests that are declined

A request to write a record is declined when it fails, or when it asks for
another version of the record than the one that is there.  It should then say
so and leave everything as it was.

A transaction that fails is given up, so nothing but drawn names comes of it.
One that finds another version is carried out all the same, with all that it
has done so far.  This is nothing, except that a value put under a type that is
not registered has made the type a schema.  A record that is moved to where it
is does not have its version looked at.
-/

namespace Request

/-- The request is one to write a record. -/
def writesRecord : Request -> Bool
  | .put .. => true
  | .patch .. => true
  | .remove .. => true
  | .copy .. => true
  | .move .. => true
  | _ => false

/-- What a request is answered: an error, or whether anything was found to do. -/
def answer (database : Database) : Request -> Except Error Bool
  | .reopen config supply =>
      (Database.openStore config database.store supply).map fun _ => true
  | .put key value options => (database.put key value options).1.map Option.isSome
  | .patch key changes version ifVersion => (database.patch key changes version ifVersion).1
  | .remove key ifVersion => (database.remove key ifVersion).1.map Option.isSome
  | .copy key destination options => (database.copy key destination options).1.map Option.isSome
  | .move key destination options => (database.move key destination options).1.map Option.isSome
  | .defineSchema typeName options => (database.defineSchema typeName options).1.map fun _ => true
  | .getSchema typeName create => .ok (database.getSchema typeName create).1.isSome
  | .reindexVectors typeName => (database.reindexVectors typeName).1.map fun _ => true
  | .newGenerator _ => .ok true

/-- The request asks for a version that the record it concerns does not have.
For a value that is put this is the record under the key that is written, which
may be a drawn one. -/
def IsStale (database : Database) : Request -> Prop
  | .put key value options => ∃ written txn,
      (Write.putKey database key options.typeName value).run database.start =
          (.ok written, txn) ∧
        StoredRecord.hasVersion options.ifVersion (database.store.records.get? written) = false
  | .patch key _ _ ifVersion =>
      StoredRecord.hasVersion ifVersion (database.store.records.get? key) = false
  | .remove key ifVersion =>
      StoredRecord.hasVersion ifVersion (database.store.records.get? key) = false
  | .copy key _ options =>
      StoredRecord.hasVersion options.ifVersion (database.store.records.get? key) = false
  | .move key _ options =>
      StoredRecord.hasVersion options.ifVersion (database.store.records.get? key) = false
  | _ => False

/-- The request fails, or asks for another version than the one that is there. -/
def IsDeclined (database : Database) (request : Request) : Prop :=
  (∃ cause, request.answer database = .error cause) ∨ request.IsStale database

/-- The request is not said to have done anything, and the records, the
indexes, the vectors and the schemas are as before. -/
structure LeavesAlone (database : Database) (request : Request) : Prop where
  isDeclined : request.answer database ≠ .ok true
  isStore : (database.after request).store = database.store
  isRegistry : (database.after request).registry = database.registry

/-- A value is put under a type that is not registered, and passed over. -/
def LeavesType (database : Database) : Request -> Prop
  | .put key value options =>
      (∃ name ∈ options.typeName, database.registry.get? name = none) ∧
        (database.put key value options).1 = .ok none
  | _ => False

/-- A record is moved to where it is. -/
def StaysInPlace (database : Database) : Request -> Prop
  | .move key destination _ => destination = some key ∧ (database.get? key).isSome
  | _ => False

end Request

namespace Write

open Database Transaction

variable {database : Database}

/-! ## Versions that are not there -/

/-- Whatever else is found out of a value that is put, it is not stored in
place of another version. -/
theorem ensures_pendingPut_none (named : Named database.registry) {key : Option String}
    {value : Value} {options : PutOptions}
    (isStale : (Request.put key value options).IsStale database) :
    Ensures (pendingPut database key value options) (fun txn => txn = database.start)
      fun result _ => result = none := by
  rcases isStale with ⟨written, middle, isWritten, lacks⟩
  have writes : Ensures (putKey database key options.typeName value)
      (fun txn => txn = database.start)
      fun key txn => txn.Steady database database.store none ∧ key = written := by
    refine ((ensures_putKey named key options.typeName value).ran database.steady_start).imp ?_
    rintro key txn ⟨steady, ran⟩
    rw [isWritten] at ran
    cases ran
    exact ⟨steady, rfl⟩
  unfold pendingPut
  refine writes.bind fun key => Ensures.assume fun isKey => ?_
  subst isKey
  refine (ensures_record? key).bind fun previous => Ensures.assume fun isPrevious => ?_
  subst isPrevious
  refine Ensures.lift.bind fun _ => Ensures.assume fun _ => ?_
  refine (ensures_bindIdentity named key _ value).bind fun bound => ?_
  rw [lacks, if_neg Bool.false_ne_true]
  exact Ensures.pure fun _ _ => rfl

/-- Where nothing is found, it stays with what comes of that. -/
theorem Ensures.passOver {Found Result : Type} {finds : Write (Option Found)}
    {before after : Transaction -> Prop}
    (ensures : Ensures finds before fun result txn => after txn ∧ result = none)
    {next : Option Found -> Write Result} {nothing : Result}
    (stops : next none = Pure.pure nothing) :
    Ensures (finds >>= next) before fun result txn => after txn ∧ result = nothing := by
  refine ensures.bind fun result => Ensures.assume fun isNone => ?_
  rw [isNone, stops]
  exact Ensures.pure fun txn holds => ⟨holds, rfl⟩

/-- A record that lacks the version that is asked for is passed over, as one
that is not there is. -/
theorem untouched_record?_lacking {Result : Type} {key : String} {ifVersion : Option Nat}
    (lacks : StoredRecord.hasVersion ifVersion (database.store.records.get? key) = false)
    (nothing : Result) (goesOn : StoredRecord -> Write Result) :
    Ensures (do
      match ← record? key with
      | none => return nothing
      | some previous =>
          if StoredRecord.hasVersion ifVersion (some previous) then goesOn previous
          else return nothing) (Untouched database)
      fun result txn => txn.Untouched database ∧ result = nothing := by
  refine (untouched_record? key).bind fun previous => Ensures.assume fun isPrevious => ?_
  subst isPrevious
  split
  · exact Ensures.pure fun txn untouched => ⟨untouched, rfl⟩
  · rename_i isThere
    rw [isThere] at lacks
    rw [lacks, if_neg Bool.false_ne_true]
    exact Ensures.pure fun txn untouched => ⟨untouched, rfl⟩

theorem untouched_patch_none {key : String} {ifVersion : Option Nat}
    (lacks : StoredRecord.hasVersion ifVersion (database.store.records.get? key) = false)
    (changes : Value) (version : Option Nat) :
    Ensures (patch database key changes version ifVersion) (Untouched database)
      fun result txn => txn.Untouched database ∧ result = false := by
  have finds : Ensures (pendingPatch database key changes version ifVersion) (Untouched database)
      fun result txn => txn.Untouched database ∧ result = none :=
    untouched_record?_lacking lacks none _
  exact finds.passOver rfl

theorem untouched_remove_none {key : String} {ifVersion : Option Nat}
    (lacks : StoredRecord.hasVersion ifVersion (database.store.records.get? key) = false) :
    Ensures (remove database key ifVersion) (Untouched database)
      fun result txn => txn.Untouched database ∧ result = none :=
  untouched_record?_lacking lacks none _

theorem untouched_copyRecord_none {key : String} {options : CopyOptions}
    (lacks : StoredRecord.hasVersion options.ifVersion (database.store.records.get? key) = false)
    (destination : Option String) :
    Ensures (copyRecord database key destination options) (Untouched database)
      fun result txn => txn.Untouched database ∧ result = none := by
  have finds : Ensures (pendingCopy database key destination options) (Untouched database)
      fun result txn => txn.Untouched database ∧ result = none :=
    untouched_record?_lacking lacks none _
  exact finds.passOver rfl

theorem untouched_copy_none {key : String} {options : CopyOptions}
    (lacks : StoredRecord.hasVersion options.ifVersion (database.store.records.get? key) = false)
    (destination : Option String) :
    Ensures (copy database key destination options) (Untouched database)
      fun result txn => txn.Untouched database ∧ result = none :=
  (untouched_copyRecord_none lacks destination).passOver rfl

theorem untouched_move_none {key : String} {options : CopyOptions}
    (lacks : StoredRecord.hasVersion options.ifVersion (database.store.records.get? key) = false)
    (destination : Option String) :
    Ensures (move database key destination options) (Untouched database)
      fun result txn => txn.Untouched database ∧ result = none :=
  (untouched_copyRecord_none lacks destination).passOver rfl

/-- A value that is put under a type has the type known afterwards, be it
stored or not. -/
theorem ensures_pendingPut_knows (named : Named database.registry) (key : Option String)
    (value : Value) {options : PutOptions} {name : String} (isType : options.typeName = some name) :
    Ensures (pendingPut database key value options) (Steady database database.store none)
      fun _ txn => txn.Knows database name := by
  unfold pendingPut
  refine (ensures_putKey named key options.typeName value).bind fun key => ?_
  refine (ensures_record? key).bind fun previous => Ensures.assume fun _ => ?_
  refine Ensures.lift.bind fun _ => Ensures.assume fun _ => ?_
  have binds (value : Value) : Ensures (bindIdentity database key (some name) value)
      (Steady database database.store none) fun _ txn => txn.Knows database name :=
    (ensures_schema named name).bind fun schema =>
      Ensures.lift.weaken (fun txn ensured => ensured.1.2) fun _ txn ensured => ensured.1
  rw [isType]
  refine (binds value).bind fun bound => ?_
  split
  · exact Ensures.pure fun _ knows => knows
  · exact Ensures.pure fun _ knows => knows

end Write

/-! ## What is left of a declined request -/

namespace Request

open Database Transaction

variable {database : Database} {request : Request}

/-- A write that fails, or that finds nothing to do without having touched
anything, leaves everything alone. -/
theorem LeavesAlone.of_write {Result : Type} (action : Write Result) (isDone : Result -> Bool)
    (isAnswer : request.answer database = (database.write action).1.map isDone)
    (isAfter : database.after request = (database.write action).2)
    (declined : (∃ cause, request.answer database = .error cause) ∨
      ∃ nothing, isDone nothing = false ∧
        Write.Ensures action (fun txn => txn = database.start)
          fun result txn => txn.Untouched database ∧ result = nothing) :
    request.LeavesAlone database := by
  rcases database.write_cases action with ⟨cause, txn, _, isWrite⟩ | ⟨result, txn, ran, isWrite⟩
  · rw [isWrite] at isAnswer isAfter
    refine ⟨fun done => ?_, by rw [isAfter], by rw [isAfter]⟩
    cases isAnswer.symm.trans done
  · rw [isWrite] at isAnswer isAfter
    rcases declined with ⟨cause, fails⟩ | ⟨nothing, isNothing, ensures⟩
    · cases isAnswer.symm.trans fails
    · rcases ensures database.start rfl result txn ran with ⟨untouched, rfl⟩
      rw [untouched.commit] at isAfter
      refine ⟨fun done => ?_, by rw [isAfter], by rw [isAfter]⟩
      have isDone : isDone result = true := Except.ok.inj (isAnswer.symm.trans done)
      rw [isNothing] at isDone
      cases isDone

/-- Put under a type that is not registered, a value that is passed over leaves
a schema behind. -/
theorem LeavesType.isRegistry_ne (orderly : database.Orderly)
    (leaves : request.LeavesType database) :
    (database.after request).registry ≠ database.registry := by
  cases request with
  | put key value options =>
      rcases leaves with ⟨⟨name, isType, unknown⟩, passedOver⟩
      have ensures : Write.Ensures (Write.put database key value options)
          (Steady database database.store none) fun result txn => result = none ->
            txn.Knows database name ∧ txn.Steady database database.store none := by
        have fits : Write.Ensures (Write.pendingPut database key value options)
            (Steady database database.store none) _ :=
          Write.ensures_pendingPut orderly.named key value options
        have finds := (Write.ensures_pendingPut_knows orderly.named key value isType).and fits
        unfold Write.put
        refine (finds.given fun txn steady => ⟨steady, steady⟩).bind fun result => ?_
        split
        · exact Write.Ensures.pure fun txn ensured _ => ⟨ensured.1, ensured.2.1⟩
        · refine Write.Ensures.anything.bind fun _ => ?_
          exact Write.Ensures.pure fun _ _ isNone => nomatch isNone
      have isPut : database.put key value options =
        database.write (Write.put database key value options) := rfl
      have isAfter : database.after (.put key value options) =
        (database.put key value options).2 := rfl
      rw [isAfter]
      rw [isPut] at passedOver ⊢
      rcases database.write_cases (Write.put database key value options) with
        ⟨cause, txn, _, isWrite⟩ | ⟨result, txn, ran, isWrite⟩
      · rw [isWrite] at passedOver
        cases passedOver
      · rw [isWrite] at passedOver ⊢
        rcases ensures database.start database.steady_start result txn ran
          (Except.ok.inj passedOver) with ⟨knows, steady⟩
        have isOwn : (txn.schemas.get? name).isSome := knows.resolve_right fun isKnown => by
          rw [unknown] at isKnown
          cases isKnown
        intro same
        have isSchema : (database.commit txn).registry.get? name =
            (txn.schemas.get? name).or (database.registry.get? name) :=
          get?_defineAll (named_of_steady steady) database.registry name
        rw [show (database.commit txn).registry = database.registry from same, unknown,
          Option.or_none] at isSchema
        rw [← isSchema] at isOwn
        cases isOwn
  | _ => cases leaves

theorem answer_move (database : Database) (key : String) (destination : Option String)
    (options : CopyOptions) : (Request.move key destination options).answer database =
      (database.move key destination options).1.map Option.isSome :=
  rfl

theorem StaysInPlace.answer_eq (stays : request.StaysInPlace database) :
    request.answer database = .ok true := by
  cases request with
  | move key destination options =>
      rcases stays with ⟨rfl, isThere⟩
      have moves : database.move key (some key) options =
          (.ok ((database.get? key).map Entry.key), database) := if_pos rfl
      rw [answer_move, moves]
      change Except.ok ((database.get? key).map Entry.key).isSome = _
      rw [Option.isSome_map, isThere]
  | _ => cases stays

/-- A put that is passed over leaves its type alone if that is registered. -/
theorem leavesAlone_put (orderly : database.Orderly) {key : Option String} {value : Value}
    {options : PutOptions} (declined : (Request.put key value options).IsDeclined database)
    (leavesNoType : ¬ (Request.put key value options).LeavesType database) :
    (Request.put key value options).LeavesAlone database := by
  refine LeavesAlone.of_write (Write.put database key value options) Option.isSome rfl rfl ?_
  refine declined.imp_right fun isStale => ⟨none, rfl, ?_⟩
  have finds := Write.ensures_pendingPut_none orderly.named isStale
  by_cases registers : database.Registers options.typeName
  · have untouched := (Write.untouched_pendingPut orderly key value registers).atStart
    exact ((untouched.and finds).given fun txn isStart => ⟨isStart, isStart⟩).passOver rfl
  · -- Under any other type, a put that is passed over would leave the type.
    intro txn isStart result final runs
    subst isStart
    have passes : Write.Ensures (Write.put database key value options)
        (fun txn => txn = database.start) fun result _ => True ∧ result = none :=
      (finds.imp fun _ _ isNone => ⟨trivial, isNone⟩).passOver rfl
    cases (passes database.start rfl result final runs).2
    have unknown : ∃ name ∈ options.typeName, database.registry.get? name = none := by
      simpa [Registers] using registers
    exact absurd ⟨unknown, congrArg Prod.fst (write_of_ok runs)⟩ leavesNoType

/-- A move that finds another version leaves everything alone, unless it is
one that does not look. -/
theorem leavesAlone_move {key : String} {destination : Option String} {options : CopyOptions}
    (declined : (Request.move key destination options).IsDeclined database)
    (moves : ¬ (Request.move key destination options).StaysInPlace database) :
    (Request.move key destination options).LeavesAlone database := by
  by_cases inPlace : destination = some key
  · have isThere : database.get? key = none :=
      Option.not_isSome_iff_eq_none.mp fun isSome => moves ⟨inPlace, isSome⟩
    have isMove : database.move key destination options = (.ok none, database) := by
      unfold Database.move
      rw [if_pos inPlace, isThere]
      rfl
    have isAfter : database.after (.move key destination options) = database :=
      congrArg Prod.snd isMove
    refine ⟨fun done => ?_, by rw [isAfter], by rw [isAfter]⟩
    rw [answer_move, isMove] at done
    cases done
  · have isMove : database.move key destination options =
        database.write (Write.move database key destination options) := if_neg inPlace
    refine LeavesAlone.of_write (Write.move database key destination options) Option.isSome
      (by rw [answer_move, isMove]) (congrArg Prod.snd isMove) ?_
    exact declined.imp_right fun isStale =>
      ⟨none, rfl, (Write.untouched_move_none isStale destination).atStart⟩

/-- A declined write leaves everything alone, except for two: a value that is
passed over under a type that is not registered leaves the type a schema, and a
record that is moved to where it is counts as moved whatever its version. -/
theorem leavesAlone_iff (reachable : Reachable (fun _ _ => True) database)
    (writes : request.writesRecord = true) (declined : request.IsDeclined database) :
    request.LeavesAlone database ↔
      ¬ request.LeavesType database ∧ ¬ request.StaysInPlace database := by
  have orderly := orderly_of_reachable reachable
  refine ⟨fun leaves => ⟨fun leavesType => leavesType.isRegistry_ne orderly leaves.isRegistry,
    fun stays => leaves.isDeclined stays.answer_eq⟩, ?_⟩
  rintro ⟨leavesNoType, moves⟩
  cases request with
  | put key value options => exact leavesAlone_put orderly declined leavesNoType
  | patch key changes version ifVersion =>
      refine LeavesAlone.of_write (Write.patch database key changes version ifVersion) id
        ?_ rfl (declined.imp_right fun isStale =>
          ⟨false, rfl, (Write.untouched_patch_none isStale changes version).atStart⟩)
      rw [Except.map_id]
      rfl
  | remove key ifVersion =>
      exact LeavesAlone.of_write (Write.remove database key ifVersion) Option.isSome rfl rfl
        (declined.imp_right fun isStale =>
          ⟨none, rfl, (Write.untouched_remove_none isStale).atStart⟩)
  | copy key destination options =>
      exact LeavesAlone.of_write (Write.copy database key destination options) Option.isSome rfl rfl
        (declined.imp_right fun isStale =>
          ⟨none, rfl, (Write.untouched_copy_none isStale destination).atStart⟩)
  | move key destination options => exact leavesAlone_move declined moves
  | _ => cases writes

/-! ## Declined requests about the first record -/

/-- The first record has the first version only. -/
theorem lacks_firstPut {version : Nat} (other : version ≠ 1) :
    StoredRecord.hasVersion (some version)
      ((blank.after firstPut).store.records.get? "P@1") = false := by
  rw [found_firstPut]
  exact beq_eq_false_iff_ne.mpr (Ne.symm other)

/-- A patch for another version leaves the first record and everything else
alone. -/
theorem leavesAlone_patch_firstPut :
    (Request.patch "P@1" (.object []) none (some 5)).IsDeclined (blank.after firstPut) ∧
      (Request.patch "P@1" (.object []) none (some 5)).LeavesAlone (blank.after firstPut) := by
  have declined : (Request.patch "P@1" (.object []) none (some 5)).IsDeclined
      (blank.after firstPut) := .inr (lacks_firstPut (by decide))
  exact ⟨declined, (leavesAlone_iff reachable_after_firstPut rfl declined).mpr ⟨nofun, nofun⟩⟩

/-- To store a named person in place of a version that is not there. -/
def stalePut : Request :=
  .put (some "P@1") (.object [("name", .string "john")])
    { typeName := some "P", ifVersion := some 5 }

/-- To move the first record to where it is, if it has another version than
the one it has. -/
def staleMove : Request :=
  .move "P@1" (some "P@1") { ifVersion := some 9 }

theorem leavesType_stalePut : stalePut.LeavesType blank := by
  refine ⟨⟨"P", rfl, rfl⟩, ?_⟩
  have finds : (Write.pendingPut blank (some "P@1") (.object [("name", .string "john")])
      { typeName := some "P", ifVersion := some 5 }).run blank.start =
        (.ok none, ⟨blank.store, Registry.define .empty (.ofType "P"), .fresh⟩) := by
    unfold Write.pendingPut
    simp [Write.putKey, Write.record?, checkPlace_firstPut]
    rfl
  have passes : (Write.put blank (some "P@1") (.object [("name", .string "john")])
      { typeName := some "P", ifVersion := some 5 }).run blank.start =
        (.ok none, ⟨blank.store, Registry.define .empty (.ofType "P"), .fresh⟩) := by
    unfold Write.put
    rw [Write.run_bind_ok finds]
    rfl
  exact congrArg Prod.fst (write_of_ok passes)

/-- Of two declined requests, the first leaves a schema behind and the second
is said to have moved the record. -/
theorem not_leavesAlone_stale :
    (stalePut.IsDeclined blank ∧ ¬ stalePut.LeavesAlone blank) ∧
      staleMove.IsDeclined (blank.after firstPut) ∧
      ¬ staleMove.LeavesAlone (blank.after firstPut) := by
  refine ⟨⟨.inr ⟨"P@1", blank.start, rfl, rfl⟩, fun leaves => ?_⟩,
    .inr (lacks_firstPut (by decide)), fun leaves => ?_⟩
  · have reachable : Reachable (fun _ _ => True) blank := .opened openStore_blank
    exact leavesType_stalePut.isRegistry_ne (orderly_of_reachable reachable) leaves.isRegistry
  · have isThere : ((blank.after firstPut).get? "P@1").isSome := by
      unfold Database.get?
      rw [found_firstPut]
      rfl
    have stays : staleMove.StaysInPlace (blank.after firstPut) := ⟨rfl, isThere⟩
    exact leaves.isDeclined stays.answer_eq

end Request

end RecordIndex
