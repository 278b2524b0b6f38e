import RecordIndex.Proofs.Database.Calls
import RecordIndex.Proofs.Database.Written

namespace RecordIndex

/-!
# Versions

A record begins with the first version, and each write that stores it again
gives it the next one.  So as long as a record is there, its version tells how
often it has been stored, and a write that asks for the version that was read
finds out whether anyone has stored the record since.

A removal takes the count away with the record.  What is stored under the key
afterwards begins with the first version again, and can come to have the one
that was read before.
-/

/-- What a call does to the record under a key. -/
inductive Touch where
  | spared
  | stored
  | removed
deriving DecidableEq

namespace Touch

/-- A key that a call writes holds a record afterwards, or none. -/
def of (isWritten takesAway : Bool) : Touch :=
  if isWritten then if takesAway then .removed else .stored else .spared

/-- The version behind a call that is given none. -/
def next (touch : Touch) (version : Option Nat) : Option Nat :=
  match touch with
  | .spared => version
  | .stored => some ((version.map (· + 1)).getD 1)
  | .removed => none

/-- The version behind some calls. -/
def nextAll (touches : List Touch) (version : Option Nat) : Option Nat :=
  touches.foldl (fun version touch => touch.next version) version

/-- As long as a record is not removed, its version counts. -/
theorem nextAll_some {touches : List Touch} (kept : .removed ∉ touches) (version : Nat) :
    nextAll touches (some version) = some (version + touches.count .stored) := by
  induction touches generalizing version with
  | nil => rfl
  | cons touch rest ih =>
      rcases not_or.mp (mt List.mem_cons.mpr kept) with ⟨here, later⟩
      cases touch with
      | spared => exact ih later version
      | stored =>
          refine (ih later (version + 1)).trans ?_
          rw [List.count_cons_self, Nat.add_right_comm, Nat.add_assoc]
      | removed => exact absurd rfl here

/-- A record that was not there has been stored as often as its version
tells. -/
theorem count_of_nextAll_none {touches : List Touch} (kept : .removed ∉ touches) {version : Nat}
    (isVersion : nextAll touches none = some version) : touches.count .stored = version := by
  induction touches with
  | nil => cases isVersion
  | cons touch rest ih =>
      rcases not_or.mp (mt List.mem_cons.mpr kept) with ⟨here, later⟩
      cases touch with
      | spared => exact ih later isVersion
      | stored =>
          have counted := (nextAll_some later 1).symm.trans isVersion
          rw [List.count_cons_self, Nat.add_comm]
          exact Option.some.inj counted
      | removed => exact absurd rfl here

/-- Of several removals, one is the last. -/
theorem exists_last_removed {touches : List Touch} (removes : .removed ∈ touches) :
    ∃ before after, touches = before ++ .removed :: after ∧ .removed ∉ after := by
  induction touches with
  | nil => cases removes
  | cons touch rest ih =>
      by_cases later : .removed ∈ rest
      · rcases ih later with ⟨before, after, rfl, kept⟩
        exact ⟨touch :: before, after, rfl, kept⟩
      · cases (List.mem_cons.mp removes).resolve_right later
        exact ⟨[], rest, rfl, later⟩

/-- A record that has the same version as before has been left alone, or has
been removed and since then been stored as often as the version tells. -/
theorem spared_or_stored_anew {touches : List Touch} {version : Nat}
    (same : nextAll touches (some version) = some version) :
    (∀ touch ∈ touches, touch = .spared) ∨
      ∃ before after, touches = before ++ .removed :: after ∧ .removed ∉ after ∧
        after.count .stored = version := by
  by_cases removes : .removed ∈ touches
  · rcases exists_last_removed removes with ⟨before, after, rfl, kept⟩
    refine .inr ⟨before, after, rfl, kept, count_of_nextAll_none kept ?_⟩
    unfold nextAll at same ⊢
    rw [List.foldl_append, List.foldl_cons] at same
    exact same
  · have counted := Option.some.inj ((nextAll_some removes version).symm.trans same)
    have notStored : .stored ∉ touches := List.count_eq_zero.mp (Nat.add_eq_left.mp counted)
    refine .inl fun touch member => ?_
    cases touch with
    | spared => rfl
    | stored => exact absurd member notStored
    | removed => exact absurd member removes

end Touch

/-! ## What requests do to versions -/

namespace Request

/-- The version that a request gives to what it stores. -/
def givenVersion? : Request -> Option Nat
  | .put _ _ options => options.version
  | .patch _ _ version _ => version
  | .copy _ _ options => options.version
  | .move _ _ options => options.version
  | _ => none

/-- The version that a request asks of the record that it writes. -/
def expectedVersion? : Request -> Option Nat
  | .put _ _ options => options.ifVersion
  | .patch _ _ _ ifVersion => ifVersion
  | .remove _ ifVersion => ifVersion
  | _ => none

/-- The request leaves no record under the key, if it writes the key. -/
def takesAway (key : String) : Request -> Bool
  | .remove _ _ => true
  | .move source _ _ => decide (key = source)
  | _ => false

/-- What the request does to the record under the key. -/
def touch (database : Database) (key : String) (request : Request) : Touch :=
  .of (decide (key ∈ request.written database)) (request.takesAway key)

end Request

/-- The version of the record under a key. -/
def versionAt (records : Table String StoredRecord) (key : String) : Option Nat :=
  (records.get? key).map StoredRecord.version

/-- The records under the written keys, and no others, have moved on to the
next version or are gone, and they had the wanted version before. -/
structure MovesOn (before : Table String StoredRecord) (takesAway : String -> Bool)
    (wanted : Option Nat) (written : List String) (after : Table String StoredRecord) : Prop where
  versions : forall key, versionAt after key =
    (Touch.of (decide (key ∈ written)) (takesAway key)).next (versionAt before key)
  isWanted : ∀ key ∈ written, StoredRecord.hasVersion wanted (before.get? key) = true

namespace MovesOn

variable {before after : Table String StoredRecord} {takesAway : String -> Bool}
  {wanted : Option Nat}

theorem nothing (before : Table String StoredRecord) (takesAway : String -> Bool)
    (wanted : Option Nat) : MovesOn before takesAway wanted [] before :=
  ⟨fun _ => rfl, nofun⟩

/-- A record is stored with the next version. -/
theorem stored {key : String} {record : StoredRecord}
    (isNext : some record.version = Touch.next .stored (versionAt before key))
    (isWanted : StoredRecord.hasVersion wanted (before.get? key) = true) :
    MovesOn before (fun _ => false) wanted [key] (before.insert key record) := by
  refine ⟨fun other => ?_, List.forall_mem_singleton.mpr isWanted⟩
  unfold versionAt Touch.of
  by_cases same : other = key
  · subst same
    rw [Table.get?_insert_self, decide_eq_true List.mem_cons_self]
    exact isNext
  · rw [Table.get?_insert_of_ne same, decide_eq_false (mt List.mem_singleton.mp same)]
    rfl

/-- A record is removed. -/
theorem removed {key : String}
    (isWanted : StoredRecord.hasVersion wanted (before.get? key) = true) :
    MovesOn before (fun _ => true) wanted [key] (before.erase key) := by
  refine ⟨fun other => ?_, List.forall_mem_singleton.mpr isWanted⟩
  unfold versionAt Touch.of
  by_cases same : other = key
  · subst same
    rw [Table.get?_erase_self, decide_eq_true List.mem_cons_self]
    rfl
  · rw [Table.get?_erase_of_ne same, decide_eq_false (mt List.mem_singleton.mp same)]
    rfl

/-- A record is stored with the next version, and one, which may be the same,
is removed. -/
theorem moved {target key : String} {record : StoredRecord}
    (isNext : some record.version = Touch.next .stored (versionAt before target)) :
    MovesOn before (fun other => decide (other = key)) none [target, key]
      ((before.insert target record).erase key) := by
  refine ⟨fun other => ?_, fun _ _ => rfl⟩
  unfold versionAt Touch.of
  by_cases isSource : other = key
  · subst isSource
    rw [Table.get?_erase_self, decide_eq_true (List.mem_cons_of_mem _ List.mem_cons_self),
      decide_eq_true rfl]
    rfl
  · rw [Table.get?_erase_of_ne isSource, decide_eq_false isSource]
    by_cases isTarget : other = target
    · subst isTarget
      rw [Table.get?_insert_self, decide_eq_true List.mem_cons_self]
      exact isNext
    · have notWritten : other ∉ [target, key] := by
        rw [List.mem_cons, List.mem_singleton]
        exact not_or.mpr ⟨isTarget, isSource⟩
      rw [Table.get?_insert_of_ne isTarget, decide_eq_false notWritten]
      rfl

end MovesOn

namespace PendingRecord

/-- The record gets no version but the next one, and takes the place of the
version that is wanted. -/
structure Follows (wanted : Option Nat) (pending : PendingRecord) : Prop where
  isUngiven : pending.version = none
  isWanted : StoredRecord.hasVersion wanted pending.previous = true

theorem Follows.isNext {wanted : Option Nat} {pending : PendingRecord}
    (follows : pending.Follows wanted) {store : Store} (fits : pending.Fits store) :
    some pending.nextVersion = Touch.next .stored (versionAt store.records pending.key) := by
  unfold nextVersion versionAt
  rw [follows.isUngiven, ← fits.isPrevious, Option.none_or]
  cases pending.previous with
  | none => rfl
  | some record => rfl

end PendingRecord

namespace Write

open Database Transaction

variable {database : Database} {store : Store} {known : Option String}

theorem ensures_pendingPut_follows (key : Option String) (value : Value) {options : PutOptions}
    (isUngiven : options.version = none) {before : Transaction -> Prop} :
    Ensures (pendingPut database key value options) before
      fun result _ => ∀ pending ∈ result, pending.Follows options.ifVersion := by
  unfold pendingPut
  refine Ensures.anything.bind fun key => Ensures.anything.bind fun previous => ?_
  refine Ensures.anything.bind fun _ => Ensures.anything.bind fun bound => ?_
  split
  · rename_i isWanted
    refine Ensures.pure fun _ _ pending isPending => ?_
    cases isPending
    exact ⟨isUngiven, isWanted⟩
  · exact Ensures.pure fun _ _ => nofun

theorem ensures_pendingPatch_follows (key : String) (changes : Value) (ifVersion : Option Nat) :
    Ensures (pendingPatch database key changes none ifVersion) (Steady database store known)
      fun result _ => ∀ pending ∈ result, pending.Follows ifVersion := by
  refine ensures_ofVersion key ifVersion (fun _ _ => nofun) fun previous _ isWanted => ?_
  refine Ensures.anything.bind fun bound => Ensures.pure fun _ _ pending isPending => ?_
  cases isPending
  exact ⟨rfl, isWanted⟩

theorem ensures_pendingCopy_follows (key : String) (destination : Option String)
    {options : CopyOptions} (isUngiven : options.version = none) :
    Ensures (pendingCopy database key destination options) (Steady database store known)
      fun result _ => ∀ copied ∈ result, copied.1.Follows none := by
  refine ensures_ofVersion key options.ifVersion (fun _ _ => nofun) fun source _ _ => ?_
  refine Ensures.anything.bind fun target => Ensures.anything.bind fun _ => ?_
  refine Ensures.anything.bind fun previous => Ensures.anything.bind fun _ => ?_
  refine Ensures.anything.bind fun bound => Ensures.pure fun _ _ copied isCopied => ?_
  cases isCopied
  exact ⟨isUngiven, rfl⟩

/-- What is stored in place of the wanted version moves on. -/
theorem HasStored.movesOn {Result : Type} {finds : Write (Option PendingRecord)}
    {isKnown : PendingRecord -> Prop} {nothing result : Result}
    {something : PendingRecord -> Result} {txn : Transaction}
    (stored : HasStored database finds isKnown nothing something result txn)
    (fitsOf : forall pending, isKnown pending -> pending.Fits database.store) {wanted : Option Nat}
    (follows : Ensures finds (Steady database database.store none)
      fun result _ => ∀ pending ∈ result, pending.Follows wanted)
    (keys : Result -> List String) (noKeys : keys nothing = [])
    (keysOf : forall pending, isKnown pending -> keys (something pending) = [pending.key]) :
    MovesOn database.store.records (fun _ => false) wanted (keys result) txn.store.records := by
  cases stored with
  | nothing steady =>
      rw [noKeys, steady.isStore]
      exact .nothing _ _ _
  | @stored pending _ runs known steady =>
      rcases runs with ⟨middle, ran⟩
      have follows := follows database.start database.steady_start _ middle ran pending rfl
      have fits := fitsOf pending known
      rw [keysOf pending known, steady.isStore, records_withRecord]
      exact .stored (follows.isNext fits) (fits.isPrevious ▸ follows.isWanted)

theorem ensures_movesOn_remove (named : Named database.registry) (key : String)
    (ifVersion : Option Nat) :
    Ensures (remove database key ifVersion) (fun txn => txn = database.start)
      fun result txn => MovesOn database.store.records (fun _ => true) ifVersion result.toList
        txn.store.records := by
  refine Ensures.ofSteady (ensures_ofVersion key ifVersion
    (fun txn steady => steady.isStore ▸ .nothing _ _ _) fun previous isPrevious isWanted => ?_)
  refine (ensures_removeRecord named key previous).bind fun _ => Ensures.pure fun txn steady => ?_
  rw [steady.isStore]
  exact .removed (isPrevious.symm ▸ isWanted)

/-- A copy gets the next version of what it replaces. -/
theorem Copies.isNext {key : String} {destination : Option String} {options : CopyOptions}
    {pending : PendingRecord} {source : StoredRecord} {txn : Transaction}
    (copies : Copies database key destination options pending source txn)
    (isUngiven : options.version = none) :
    some pending.nextVersion =
      Touch.next .stored (versionAt database.store.records pending.key) := by
  rcases copies.runs with ⟨middle, ran⟩
  have follows := ensures_pendingCopy_follows key destination isUngiven database.start
    database.steady_start _ middle ran (pending, source) rfl
  exact follows.isNext copies.fits

theorem ensures_movesOn_copy (named : Named database.registry) (key : String)
    (destination : Option String) {options : CopyOptions} (isUngiven : options.version = none) :
    Ensures (copy database key destination options) (fun txn => txn = database.start)
      fun result txn => MovesOn database.store.records (fun _ => false) none result.toList
        txn.store.records := by
  unfold copy
  refine (ensures_copyRecord named key destination options).bind fun result => ?_
  refine Ensures.pure fun txn copied => ?_
  cases copied with
  | nothing steady => exact steady.isStore ▸ .nothing _ _ _
  | copied copies =>
      rw [copies.steady.isStore, records_withRecord]
      exact .stored (copies.isNext isUngiven) rfl

theorem ensures_movesOn_move (named : Named database.registry) (key : String)
    (destination : Option String) {options : CopyOptions} (isUngiven : options.version = none) :
    Ensures (move database key destination options) (fun txn => txn = database.start)
      fun result txn => MovesOn database.store.records (fun other => decide (other = key)) none
        (result.toList.flatMap fun target => [target, key]) txn.store.records := by
  refine (ensures_hasMoved named key destination options).imp ?_
  intro result txn moved
  cases moved with
  | nothing steady => exact steady.isStore ▸ .nothing _ _ _
  | moved copies _ steady =>
      rw [steady.isStore, records_withoutRecord, records_withRecord]
      exact .moved (copies.isNext isUngiven)

end Write

namespace Database

variable {database : Database}

/-- What an action does to the keys that its result tells is what the write
does to them. -/
theorem movesOn_write {Result : Type} {action : Write Result} {keys : Result -> List String}
    {takesAway : String -> Bool} {wanted : Option Nat}
    (ensures : Write.Ensures action (fun txn => txn = database.start)
      fun result txn => MovesOn database.store.records takesAway wanted (keys result)
        txn.store.records) :
    MovesOn database.store.records takesAway wanted
      (Request.writtenBy keys (database.write action).1)
      (database.write action).2.store.records := by
  rcases database.write_cases action with ⟨cause, txn, _, isWrite⟩ | ⟨result, txn, ran, isWrite⟩
  · rw [isWrite]
    exact .nothing _ _ _
  · rw [isWrite, records_commit]
    exact ensures database.start rfl result txn ran

/-- A request to write a record, if it gives no version, moves on the versions
under the keys that it writes. -/
theorem Orderly.movesOn_after (orderly : database.Orderly) {request : Request}
    (isWrite : request.writesRecord = true) (isUngiven : request.givenVersion? = none) :
    MovesOn database.store.records request.takesAway request.expectedVersion?
      (request.written database) (database.after request).store.records := by
  have named := orderly.named
  cases request with
  | put key value options =>
      have follows : Write.Ensures (Write.pendingPut database key value options)
          (Transaction.Steady database database.store none)
          fun result _ => ∀ pending ∈ result, pending.Follows options.ifVersion :=
        Write.ensures_pendingPut_follows key value isUngiven
      exact movesOn_write ((Write.ensures_hasStored_put named key value options).imp
        fun _ _ stored => stored.movesOn (fun _ => id) follows Option.toList rfl fun _ _ => rfl)
  | patch key changes version ifVersion =>
      cases isUngiven
      have follows : Write.Ensures (Write.pendingPatch database key changes none ifVersion)
          (Transaction.Steady database database.store none)
          fun result _ => ∀ pending ∈ result, pending.Follows ifVersion :=
        Write.ensures_pendingPatch_follows key changes ifVersion
      exact movesOn_write ((Write.ensures_hasStored_patch named key changes none ifVersion
        (orderly.isPlaced key)).imp fun _ _ stored => stored.movesOn (fun _ => And.left) follows
          (fun patched => if patched then [key] else []) rfl
          fun _ known => congrArg (fun key => [key]) known.2.symm)
  | remove key ifVersion => exact movesOn_write (Write.ensures_movesOn_remove named key ifVersion)
  | copy key destination options =>
      exact movesOn_write (Write.ensures_movesOn_copy named key destination isUngiven)
  | move key destination options =>
      change MovesOn _ _ _ (if destination = some key then [] else _)
        (database.move key destination options).2.store.records
      unfold move
      split
      · exact .nothing _ _ _
      · exact movesOn_write (Write.ensures_movesOn_move named key destination isUngiven)
  | _ => cases isWrite

end Database

/-! ## What clients do to versions -/

/-- One of two clients. -/
inductive Client where
  | first
  | second
deriving DecidableEq

namespace Call

/-- The call looks at a record, or writes records and gives them no version. -/
def IsPlain : Call -> Prop
  | .get _ => True
  | .request made => made.writesRecord = true ∧ made.givenVersion? = none
  | _ => False

/-- What the call does to the record under the key. -/
def touch (database : Database) (key : String) : Call -> Touch
  | .request made => made.touch database key
  | _ => .spared

end Call

namespace Database

variable {database : Database}

/-- The database behind calls of the clients. -/
def behindAll (database : Database) (calls : List (Client × Call)) : Database :=
  calls.foldl (fun database call => database.behind call.2) database

/-- What the calls of each client do to the record under the key. -/
def history (database : Database) (key : String) : List (Client × Call) -> List (Client × Touch)
  | [] => []
  | (client, call) :: rest =>
      (client, call.touch database key) :: (database.behind call).history key rest

theorem Orderly.behind (orderly : database.Orderly) (call : Call) :
    (database.behind call).Orderly := by
  cases call with
  | request request => exact orderly.step (orderly.step_after request)
  | _ => exact orderly

/-- A plain call moves on the version of a record by what it does to it. -/
theorem Orderly.versionAt_behind (orderly : database.Orderly) {call : Call}
    (plain : call.IsPlain) (key : String) :
    versionAt (database.behind call).store.records key =
      (call.touch database key).next (versionAt database.store.records key) := by
  cases call with
  | request request => exact (orderly.movesOn_after plain.1 plain.2).versions key
  | _ => rfl

/-- The version behind plain calls tells what they have done. -/
theorem Orderly.versionAt_behindAll (orderly : database.Orderly) {calls : List (Client × Call)}
    (plain : ∀ call ∈ calls, call.2.IsPlain) (key : String) :
    versionAt (database.behindAll calls).store.records key =
      Touch.nextAll ((database.history key calls).map Prod.snd)
        (versionAt database.store.records key) := by
  induction calls generalizing database with
  | nil => rfl
  | cons first rest ih =>
      rcases first with ⟨client, call⟩
      have later := ih (orderly.behind call) fun other member =>
        plain other (List.mem_cons_of_mem _ member)
      rw [orderly.versionAt_behind (plain _ List.mem_cons_self)] at later
      exact later

theorem Orderly.behindAll (orderly : database.Orderly) (calls : List (Client × Call)) :
    (database.behindAll calls).Orderly := by
  induction calls generalizing database with
  | nil => exact orderly
  | cons first rest ih => exact ih (orderly.behind first.2)

/-- A write that asks for a version takes effect on this version only. -/
theorem Orderly.versionAt_of_written (orderly : database.Orderly) {request : Request}
    (isUngiven : request.givenVersion? = none) {key : String} {version : Nat}
    (isExpected : request.expectedVersion? = some version)
    (isWritten : key ∈ request.written database) :
    versionAt database.store.records key = some version := by
  have isWrite : request.writesRecord = true := by
    cases request with
    | put | patch | remove => rfl
    | _ => cases isExpected
  have isWanted := (orderly.movesOn_after isWrite isUngiven).isWanted key isWritten
  rw [isExpected] at isWanted
  unfold versionAt
  cases found : database.store.records.get? key with
  | none =>
      rw [found] at isWanted
      cases isWanted
  | some record =>
      rw [found] at isWanted
      exact congrArg some (eq_of_beq isWanted)

/-- When a write asks for the version that its client has read, and takes
effect, then nobody has changed, replaced or removed the record in between,
unless it has been removed and since its last removal been stored exactly as
often as the version tells. -/
theorem conditional_write_detects {allowed : Database -> Request -> Prop}
    (reachable : Reachable allowed database) {key : String} {version : Nat}
    (isRead : (database.get? key).map Entry.version = some version)
    {calls : List (Client × Call)} (plain : ∀ call ∈ calls, call.2.IsPlain) {request : Request}
    (isUngiven : request.givenVersion? = none)
    (isExpected : request.expectedVersion? = some version)
    (takesEffect : key ∈ request.written (database.behindAll calls)) :
    (∀ event ∈ database.history key calls, event.2 = .spared) ∨
      ∃ before after, (database.history key calls).map Prod.snd = before ++ .removed :: after ∧
        .removed ∉ after ∧ after.count .stored = version := by
  have orderly := orderly_of_reachable reachable
  have isRead : versionAt database.store.records key = some version := by
    unfold get? at isRead
    rw [Option.map_map] at isRead
    exact isRead
  have same := (orderly.behindAll calls).versionAt_of_written isUngiven isExpected takesEffect
  rw [orderly.versionAt_behindAll plain, isRead] at same
  exact (Touch.spared_or_stored_anew same).imp_left List.forall_mem_map.mp

/-! ## A record that is stored anew -/

/-- To store a value under a key of no type. -/
def plainPut (key : String) (value : Value) (ifVersion : Option Nat) : Request :=
  .put (some key) value { ifVersion }

/-- A database with one record, of no type. -/
def plainRecord : Database :=
  blank.after (plainPut "k" .null none)

theorem reachable_plainRecord : Reachable (fun _ _ => True) plainRecord :=
  .step (.opened openStore_blank) trivial

/-- The other client stores a record elsewhere. -/
def storeElsewhere : List (Client × Call) :=
  [(.second, .request (plainPut "j" .null none)), (.first, .get "j")]

/-- The other client removes the record and stores one anew. -/
def storeAnew : List (Client × Call) :=
  [(.second, .request (.remove "k" none)), (.second, .request (plainPut "k" (.bool true) none))]

/-- When the other client has stored a record elsewhere, a client finds its own
as it has read it. -/
theorem conditional_write_detects_nothing :
    (plainRecord.get? "k").map Entry.version = some 1 ∧
      "k" ∈ (plainPut "k" (.bool true) (some 1)).written (plainRecord.behindAll storeElsewhere) ∧
      ∀ event ∈ plainRecord.history "k" storeElsewhere, event.2 = .spared := by
  have plain : ∀ call ∈ storeElsewhere, call.2.IsPlain :=
    List.forall_mem_cons.mpr ⟨⟨rfl, rfl⟩, List.forall_mem_singleton.mpr trivial⟩
  have isRead : (plainRecord.get? "k").map Entry.version = some 1 := rfl
  have writes : (plainPut "k" (.bool true) (some 1)).written
      (plainRecord.behindAll storeElsewhere) = ["k"] := rfl
  have takesEffect : "k" ∈ (plainPut "k" (.bool true) (some 1)).written
      (plainRecord.behindAll storeElsewhere) := writes ▸ List.mem_singleton.mpr rfl
  refine ⟨isRead, takesEffect, ?_⟩
  rcases conditional_write_detects reachable_plainRecord isRead plain rfl rfl takesEffect with
    spared | ⟨before, after, isHistory, _⟩
  · exact spared
  · have removes : Touch.removed ∈ (plainRecord.history "k" storeElsewhere).map Prod.snd := by
      rw [isHistory]
      exact List.mem_append_right before List.mem_cons_self
    exact absurd removes (by decide)

/-- When the other client has removed the record and stored one anew, a client
does not find out: the version that it has read is there again. -/
theorem conditional_write_overlooks_removal :
    Reachable (fun _ _ => True) plainRecord ∧ (∀ call ∈ storeAnew, call.2.IsPlain) ∧
      (plainRecord.get? "k").map Entry.version = some 1 ∧
      "k" ∈ (plainPut "k" .null (some 1)).written (plainRecord.behindAll storeAnew) ∧
      ¬ ∀ event ∈ plainRecord.history "k" storeAnew, event.1 ≠ .first -> event.2 = .spared := by
  have writes : (plainPut "k" .null (some 1)).written (plainRecord.behindAll storeAnew) = ["k"] :=
    rfl
  refine ⟨reachable_plainRecord, ?_, rfl, writes ▸ List.mem_singleton.mpr rfl, fun spares => ?_⟩
  · exact List.forall_mem_cons.mpr ⟨⟨rfl, rfl⟩, List.forall_mem_singleton.mpr ⟨rfl, rfl⟩⟩
  · cases spares (.second, .removed) List.mem_cons_self nofun

end Database

end RecordIndex
