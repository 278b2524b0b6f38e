import RecordIndex.Proofs.Database.Declined
import RecordIndex.Proofs.Index.Changes

namespace RecordIndex

/-!
# What a call writes

The answer to a call tells the keys that it has written: the one a record was
stored or removed under, and both keys of a move.  A call that is declined has
written none.  Whatever is kept under other keys stays as it is.
-/

namespace Request

/-- The keys that a call has written, by its answer. -/
def writtenBy {Result : Type} (keys : Result -> List String) (answer : Except Error Result) :
    List String :=
  match answer with
  | .ok result => keys result
  | .error _ => []

/-- The keys under which a call stores or removes a record. -/
def written (database : Database) : Request -> List String
  | .put key value options => writtenBy Option.toList (database.put key value options).1
  | .patch key changes version ifVersion =>
      writtenBy (fun patched => if patched then [key] else [])
        (database.patch key changes version ifVersion).1
  | .remove key ifVersion => writtenBy Option.toList (database.remove key ifVersion).1
  | .copy key destination options =>
      writtenBy Option.toList (database.copy key destination options).1
  | .move key destination options =>
      if destination = some key then []
      else writtenBy (fun target => target.toList.flatMap fun target => [target, key])
        (database.move key destination options).1
  | _ => []

end Request

open Store

namespace Database

variable {database : Database}

theorem changes_withRecord (database : Database) (store : Store) (pending : PendingRecord)
    (version : Nat) (vector : FeatureVector) :
    Changes [pending.key] store (database.withRecord store pending version vector) :=
  (changes_putRecord store pending.key vector (pending.record database version)).trans
    (changes_changeTerms _ pending.key
      (keyed_getD_map (keyed_expectedTerms database) pending.previous)
      (keyed_typedTerms database pending.typeName pending.value))

theorem changes_withoutRecord (database : Database) (store : Store) (key : String)
    (previous : StoredRecord) :
    Changes [key] store (database.withoutRecord store key previous) :=
  (changes_removeRecord store key).trans
    (changes_changeTerms _ key (keyed_expectedTerms database previous) TermCounts.Keyed.empty)

/-- Schemas are kept apart from records. -/
theorem changes_commit {txn : Transaction} {written : List String}
    (changes : Changes written database.store txn.store) :
    Changes written database.store (database.commit txn).store := by
  refine changes.trans ⟨fun _ _ => ?_, fun _ _ order _ _ => ?_, fun legible order => ?_⟩
  · rw [records_commit]
  · rw [index_commit]
  · rw [index_commit]
    exact legible order

/-- A write changes what its result tells, or nothing if it fails. -/
theorem changes_write {Result : Type} {action : Write Result} {keys : Result -> List String}
    (ensures : Write.Ensures action (fun txn => txn = database.start)
      fun result txn => Changes (keys result) database.store txn.store) :
    Changes (Request.writtenBy keys (database.write action).1) database.store
      (database.write action).2.store := by
  rcases database.write_cases action with ⟨cause, txn, _, isWrite⟩ | ⟨result, txn, ran, isWrite⟩
  · rw [isWrite]
    exact Changes.refl _ _
  · rw [isWrite]
    exact changes_commit (ensures database.start rfl result txn ran)

end Database

namespace Write

open Database Transaction

variable {database : Database}

/-- What is stored is all that changes. -/
theorem HasStored.changes {Result : Type} {finds : Write (Option PendingRecord)}
    {isKey : PendingRecord -> Prop} {nothing result : Result}
    {something : PendingRecord -> Result} {txn : Transaction}
    (stored : HasStored database finds isKey nothing something result txn)
    (keys : Result -> List String)
    (keysOf : forall pending, isKey pending -> pending.key ∈ keys (something pending)) :
    Changes (keys result) database.store txn.store := by
  cases stored with
  | nothing steady => exact steady.isStore ▸ Changes.refl _ _
  | @stored pending _ _ isKey steady =>
      rw [steady.isStore]
      exact (changes_withRecord database database.store pending _ _).among (keysOf pending isKey)

theorem ensures_changes_remove (named : Named database.registry) (key : String)
    (ifVersion : Option Nat) :
    Ensures (remove database key ifVersion) (fun txn => txn = database.start)
      fun result txn => Changes result.toList database.store txn.store := by
  refine Ensures.ofSteady (ensures_ofVersion key ifVersion
    (fun txn steady => steady.isStore ▸ Changes.refl _ _) fun previous _ _ => ?_)
  refine (ensures_removeRecord named key previous).bind fun _ => Ensures.pure fun txn steady => ?_
  rw [steady.isStore]
  exact changes_withoutRecord database database.store key previous

theorem ensures_changes_copy (named : Named database.registry) (key : String)
    (destination : Option String) (options : CopyOptions) :
    Ensures (copy database key destination options) (fun txn => txn = database.start)
      fun result txn => Changes result.toList database.store txn.store := by
  unfold copy
  refine (ensures_copyRecord named key destination options).bind fun result => ?_
  refine Ensures.pure fun txn copied => ?_
  cases copied with
  | nothing steady => exact steady.isStore ▸ Changes.refl _ _
  | @copied pending _ _ copies =>
      rw [copies.steady.isStore]
      exact changes_withRecord database database.store pending _ _

theorem ensures_changes_move (named : Named database.registry) (key : String)
    (destination : Option String) (options : CopyOptions) :
    Ensures (move database key destination options) (fun txn => txn = database.start)
      fun result txn => Changes (result.toList.flatMap fun target => [target, key])
        database.store txn.store := by
  refine (ensures_hasMoved named key destination options).imp ?_
  intro result txn moved
  cases moved with
  | nothing steady => exact steady.isStore ▸ Changes.refl _ _
  | @moved pending source _ _ _ _ steady =>
      have copied := changes_withRecord database database.store pending
      have removed := fun store => changes_withoutRecord database store key source
      rw [steady.isStore]
      exact ((copied _ _).among List.mem_cons_self).trans
        ((removed _).among (List.mem_cons_of_mem _ List.mem_cons_self))

end Write

namespace Database

variable {database : Database}

/-- A call to write a record changes what is kept under the keys that it has
written, and nothing else. -/
theorem Orderly.changes_after (orderly : database.Orderly) {request : Request}
    (isWrite : request.writesRecord = true) :
    Changes (request.written database) database.store (database.after request).store := by
  have named := orderly.named
  cases request with
  | put key value options =>
      exact changes_write ((Write.ensures_hasStored_put named key value options).imp
        fun _ _ stored => stored.changes Option.toList fun _ _ => List.mem_singleton.mpr rfl)
  | patch key changes version ifVersion =>
      refine changes_write ((Write.ensures_hasStored_patch named key changes version ifVersion
        (orderly.isPlaced key)).imp fun _ _ stored =>
          stored.changes (fun patched => if patched then [key] else []) ?_)
      rintro pending ⟨_, rfl⟩
      exact List.mem_singleton.mpr rfl
  | remove key ifVersion => exact changes_write (Write.ensures_changes_remove named key ifVersion)
  | copy key destination options =>
      exact changes_write (Write.ensures_changes_copy named key destination options)
  | move key destination options =>
      change Changes (if destination = some key then [] else _) database.store
        (database.move key destination options).2.store
      unfold move
      split
      · exact Changes.refl _ _
      · exact changes_write (Write.ensures_changes_move named key destination options)
  | _ => cases isWrite

end Database

end RecordIndex
