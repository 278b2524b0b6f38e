import RecordIndex.Proofs.Database.Strict
import RecordIndex.Proofs.Database.Written
import RecordIndex.Proofs.Pattern.InOrder
import RecordIndex.Proofs.Query.Pulling

namespace RecordIndex

/-!
# Reading while records are written

A range holds no view of the database.  Each pull goes on where the last one
stopped, in whatever the database has become.  A strict query of a type stands
this: no key is handed out twice, every hit is a match as it is at that moment,
and the range does not end before it has handed out every record that matched
at the start and was left alone since.
-/

/-- What is done while a range is read. -/
inductive Turn where
  | pull
  | call (request : Request)

/-- Between two pulls, only records are written. -/
def Turn.isAllowed : Turn -> Bool
  | .pull => true
  | .call request => request.writesRecord

/-- A range that is being read, and what it has handed out so far. -/
structure Reading where
  database : Database
  range : IndexRange
  hits : List (Hit Nat)

namespace Reading

/-- The keys that have been handed out. -/
def keys (reading : Reading) : List String :=
  reading.hits.map Hit.key

/-- What becomes of a reading in a turn. -/
def turn (reading : Reading) : Turn -> Reading
  | .pull =>
      let (outcome, range) := reading.database.pull reading.range
      match outcome with
      | .ok hit => { reading with range, hits := reading.hits ++ hit.toList }
      | .error _ => { reading with range }
  | .call request => { reading with database := reading.database.after request }

end Reading

namespace Database

/-- The keys that the calls among some turns write. -/
def writtenIn (database : Database) : List Turn -> List String
  | [] => []
  | .pull :: rest => database.writtenIn rest
  | .call request :: rest => request.written database ++ (database.after request).writtenIn rest

end Database

namespace Reading

variable {reading : Reading} {page : Page} {owed : String -> StoredRecord -> Prop}

/-- The record is as it was, and it has been handed out or is still to come. -/
structure Owes (reading : Reading) (search : IndexMatches) (id : String) (record : StoredRecord) :
    Prop where
  isRecord : reading.database.store.records.get? id = some record
  meets : search.Meets reading.database.store id
  owes : id ∈ reading.keys ∨ search.Pends reading.database.store id

/-- The reading goes through a strict search, from which it has not handed out
anything twice, and owes these records. -/
structure Sound (page : Page) (owed : String -> StoredRecord -> Prop) (reading : Reading) :
    Prop where
  orderly : reading.database.Orderly
  legible : reading.database.store.IsLegible
  reads : ∃ search handed, reading.range = ⟨.streaming search, page⟩ ∧
    search.Strict handed ∧ reading.keys.Sublist (handed.map Candidate.id) ∧
      forall id record, owed id record -> reading.Owes search id record

/-- What owes some records owes any of them. -/
theorem Sound.mono {fewer : String -> StoredRecord -> Prop} (sound : reading.Sound page owed)
    (among : forall id record, fewer id record -> owed id record) : reading.Sound page fewer := by
  rcases sound with ⟨orderly, legible, search, handed, isRange, strict, handsOut, owes⟩
  exact ⟨orderly, legible, search, handed, isRange, strict, handsOut,
    fun id record isOwed => owes id record (among id record isOwed)⟩

theorem Sound.nodup_keys (sound : reading.Sound page owed) : reading.keys.Nodup := by
  rcases sound.reads with ⟨search, handed, _, strict, handsOut, _⟩
  have fresh := strict.fresh.1
  rw [List.map_append] at fresh
  exact handsOut.nodup (List.nodup_append.mp fresh).1

/-- What a pull hands out, and what it leaves. -/
theorem Sound.pulled (sound : reading.Sound page owed) (whole : page.IsWhole)
    (admits : forall id record, owed id record -> page.admits record.value = true)
    {outcome : Except Error (Option (Hit Nat))} {range : IndexRange}
    (pulled : reading.database.pull reading.range = (outcome, range)) :
    ∃ hit, outcome = .ok hit ∧
      Sound page owed { reading with range, hits := reading.hits ++ hit.toList } ∧
      (∀ shown ∈ hit, ∃ record, reading.database.store.records.get? shown.key = some record ∧
        page.admits record.value = true ∧ page.Shows record shown) ∧
      (hit = none -> forall id record, owed id record -> id ∈ reading.keys) := by
  rcases sound with ⟨orderly, legible, search, handed, isRange, strict, handsOut, owes⟩
  rw [isRange] at pulled
  rcases Database.pulls_of_pull whole _ pulled with ⟨isPage, pulls⟩
  rcases pulls.of_streaming with ⟨last, isLast, pulls⟩
  rcases strict.pulls legible pulls with ⟨asked, gives⟩
  have isRange : range = ⟨.streaming last, page⟩ := by
    rcases range with ⟨source, page'⟩
    cases isPage
    cases isLast
    rfl
  cases outcome with
  | error cause => exact gives.elim
  | ok hit =>
      rcases gives with ⟨candidates, strict', isHit⟩
      have pends {id : String} {record : StoredRecord} (isOwed : owed id record)
          (pends : search.Pends reading.database.store id) :
          ∃ shown, hit = some shown ∧
            (shown.key = id ∨ last.Pends reading.database.store id) := by
        have isOwing := owes id record isOwed
        rcases pends.pulls orderly.readsRows legible strict isOwing.meets (fun mark => by
          rw [Page.hit?_of_record isOwing.isRecord (admits id record isOwed)]
          exact nofun) pulls with ⟨shown, isShown, either⟩
        exact ⟨shown, Except.ok.inj isShown, either⟩
      have keys : Reading.keys { reading with range, hits := reading.hits ++ hit.toList } =
          reading.keys ++ hit.toList.map Hit.key :=
        List.map_append
      refine ⟨hit, rfl, ⟨orderly, legible, last, handed ++ candidates, isRange, strict', ?_, ?_⟩,
        ?_, ?_⟩
      · rw [keys, List.map_append]
        exact handsOut.append isHit
      · intro id record isOwed
        have isOwing := owes id record isOwed
        refine ⟨isOwing.isRecord, isOwing.meets.of_asked asked, ?_⟩
        rw [keys]
        rcases isOwing.owes with before | isPending
        · exact .inl (List.mem_append_left _ before)
        · rcases pends isOwed isPending with ⟨shown, rfl, rfl | later⟩
          · exact .inl (List.mem_append_right _ (List.mem_singleton.mpr rfl))
          · exact .inr later
      · rintro shown rfl
        exact pulls.shows
      · rintro rfl id record isOwed
        refine (owes id record isOwed).owes.resolve_right fun isPending => ?_
        rcases pends isOwed isPending with ⟨shown, isShown, _⟩
        cases isShown

/-- A call leaves owed what it does not write. -/
theorem Sound.called (sound : reading.Sound page owed) {request : Request}
    (isWrite : request.writesRecord = true) :
    Sound page (fun id record => owed id record ∧ id ∉ request.written reading.database)
      (reading.turn (.call request)) := by
  rcases sound with ⟨orderly, legible, search, handed, isRange, strict, handsOut, owes⟩
  have changes := orderly.changes_after isWrite
  refine ⟨orderly.step (orderly.step_after request), changes.legible legible, search, handed,
    isRange, strict, handsOut, ?_⟩
  rintro id record ⟨isOwed, spared⟩
  have isOwing := owes id record isOwed
  exact ⟨(changes.records id spared).trans isOwing.isRecord, isOwing.meets.changes changes spared,
    isOwing.owes.imp_right fun pends => pends.changes changes spared⟩

/-- Whatever is done in between, a reading owes the records that are left
alone. -/
theorem Sound.turns (sound : reading.Sound page owed) (whole : page.IsWhole)
    (admits : forall id record, owed id record -> page.admits record.value = true)
    (turns : List Turn) (allowed : ∀ turn ∈ turns, turn.isAllowed = true) :
    Sound page (fun id record => owed id record ∧ id ∉ reading.database.writtenIn turns)
      (turns.foldl turn reading) := by
  induction turns generalizing reading owed with
  | nil => exact sound.mono fun _ _ isOwed => isOwed.1
  | cons first rest ih =>
      have allowedLater := fun turn member => allowed turn (List.mem_cons_of_mem first member)
      cases first with
      | pull =>
          rcases isPull : reading.database.pull reading.range with ⟨outcome, range⟩
          rcases sound.pulled whole admits isPull with ⟨hit, rfl, later, _⟩
          have isTurn : reading.turn .pull =
              { reading with range, hits := reading.hits ++ hit.toList } := by
            unfold turn
            rw [isPull]
          rw [List.foldl_cons, isTurn]
          exact ih later admits allowedLater
      | call request =>
          have later := ih (sound.called (allowed _ List.mem_cons_self))
            (fun id record isOwed => admits id record isOwed.1) allowedLater
          refine later.mono fun id record isOwed => ?_
          rcases not_or.mp (mt List.mem_append.mpr isOwed.2) with ⟨here, later⟩
          exact ⟨⟨isOwed.1, here⟩, later⟩

end Reading

namespace Database

variable {database : Database}

/-! ## The start of a query -/

/-- A record of the type that matches meets every term of the pattern. -/
theorem meets_of_isMatch (orderly : database.Orderly) (holds : database.IndexesHold)
    {typeName : String} {fields : List (PatternKey × Pattern)}
    (searchable : (database.queryDeriver (some typeName)).SearchableFields [] fields)
    (inOrder : ∀ term ∈ database.queryTerms (.nested fields) (some typeName), term.AsksInOrder)
    {id : String} {record : StoredRecord}
    (isRecord : database.store.records.get? id = some record)
    (isTyped : record.typeName = some typeName)
    (isMatch : (Pattern.nested fields).isMatch record.value = true) (scanFallback : Bool) :
    (database.search (.nested fields) { typeName := some typeName, scanFallback }).Meets
      database.store id := by
  refine ⟨orderly.hasType isRecord isTyped, fun term isTerm => ?_⟩
  rcases answers_of_isMatch orderly searchable isRecord isTyped isMatch term isTerm with
    ⟨held, isHeld, answers⟩
  have reaches := answers.reaches (fun other _ => other.HasLeaf) id
    fun _ pattern isTest _ other _ hasLeaf value isStored isLeaf less done =>
      pattern.doneInOrder (inOrder term isTerm pattern isTest) other.leaf hasLeaf value held.leaf
        isStored isLeaf less done
  exact ⟨held, hasLeaf_of_mem_derivedTerms isHeld, reaches,
    (exists_entry_iff holds _ _).mpr ⟨id, record, isRecord, held, isHeld, rfl⟩⟩

/-- A strict search for some terms, before its first step. -/
theorem strict_search (database : Database) {pattern : Pattern} {typeName : String}
    (someTerm : database.queryTerms pattern (some typeName) ≠ []) (scanFallback : Bool) :
    (database.search pattern { typeName := some typeName, scanFallback }).Strict [] ∧
      forall id, (database.search pattern { typeName := some typeName, scanFallback }).Pends
        database.store id := by
  have nonempty : (database.queryTerms pattern (some typeName)).isEmpty = false := by
    cases isTerms : database.queryTerms pattern (some typeName) with
    | nil => exact absurd isTerms someTerm
    | cons _ _ => rfl
  have fallback : (database.search pattern
      { typeName := some typeName, scanFallback }).fallback = none := by
    unfold search IndexMatches.forTerms
    rw [nonempty]
    rfl
  have running : (database.search pattern
      { typeName := some typeName, scanFallback }).done = false := by
    unfold search IndexMatches.forTerms
    rw [nonempty]
    rfl
  exact ⟨⟨fallback, rfl, rfl, ⟨List.nodup_nil, List.forall_mem_nil _⟩,
      fun scan isScan => absurd isScan (Option.not_mem_none scan)⟩, fun id =>
    .inr ⟨⟨running, List.length_pos_iff.mpr someTerm, List.not_mem_nil, rfl,
      fun credited => absurd credited List.not_mem_nil⟩,
      fun _ scan isScan => absurd isScan (Option.not_mem_none scan)⟩⟩

/-- A strict query of a type in a consistent database is read to its end while
records are put, patched, removed, copied and moved.  No key is handed out
twice.  A hit shows a record that matches, as it is at the moment of the pull.
Where the range ends, it has handed out every record of the type that matched
at the start and that no call has written since.  This holds for batches of any
size, and for predicates that are done in the order of all leaves, since calls
may bring leaves that no stored value has. -/
theorem strict_query_under_writes {allowed : Database -> Request -> Prop}
    (reachable : Reachable allowed database) (consistent : database.Consistent)
    {typeName : String} {fields : List (PatternKey × Pattern)}
    (searchable : (database.queryDeriver (some typeName)).SearchableFields [] fields)
    (inOrder : ∀ term ∈ database.queryTerms (.nested fields) (some typeName), term.AsksInOrder)
    (someTerm : database.queryTerms (.nested fields) (some typeName) ≠ [])
    (select : Option Projection) (scanFallback : Bool) :
    let options : IndexOptions := { typeName := some typeName, scanFallback }
    ∃ range, database.findByIndex (.nested fields) none select options = .ok range ∧
      forall turns : List Turn, (∀ turn ∈ turns, turn.isAllowed = true) ->
        let reading : Reading := turns.foldl Reading.turn ⟨database, range, []⟩
        reading.keys.Nodup ∧
        match (reading.database.pull reading.range).1 with
        | .ok (some hit) => hit.key ∉ reading.keys ∧
            ∃ record, reading.database.store.records.get? hit.key = some record ∧
              (Pattern.nested fields).isMatch record.value = true ∧
              (indexPage (.nested fields) none select options).Shows record hit
        | .ok none => forall key record, database.store.records.get? key = some record ->
            record.typeName = some typeName ->
              (Pattern.nested fields).isMatch record.value = true ->
                key ∉ database.writtenIn turns -> key ∈ reading.keys
        | .error _ => False := by
  intro options
  have orderly := orderly_of_reachable reachable
  have holds := consistent_iff.mp consistent
  have whole : (indexPage (.nested fields) none select options).IsWhole := ⟨rfl, rfl⟩
  rcases database.strict_search someTerm scanFallback with ⟨strict, pends⟩
  refine ⟨⟨.streaming (database.search (.nested fields) options),
    indexPage (.nested fields) none select options⟩, rfl, fun turns allowed => ?_⟩
  have start : Reading.Sound (indexPage (.nested fields) none select options)
      (fun key record => database.store.records.get? key = some record ∧
        record.typeName = some typeName ∧ (Pattern.nested fields).isMatch record.value = true)
      ⟨database, ⟨.streaming (database.search (.nested fields) options),
        indexPage (.nested fields) none select options⟩, []⟩ := by
    refine ⟨orderly, readable_index holds, _, [], rfl, strict, List.Sublist.refl _, ?_⟩
    rintro key record ⟨isRecord, isTyped, isMatch⟩
    exact ⟨isRecord, meets_of_isMatch orderly holds searchable inOrder isRecord isTyped isMatch
      scanFallback, .inr (pends key)⟩
  have sound := start.turns whole (fun _ _ isOwed => isOwed.2.2) turns allowed
  intro reading
  refine ⟨sound.nodup_keys, ?_⟩
  rcases isPull : reading.database.pull reading.range with ⟨outcome, range⟩
  rcases sound.pulled whole (fun _ _ isOwed => isOwed.1.2.2) isPull with
    ⟨hit, rfl, later, shows_, ends⟩
  cases hit with
  | some hit =>
      refine ⟨fun twice => ?_, shows_ hit rfl⟩
      have nodup := later.nodup_keys
      rw [Reading.keys, Option.toList_some, List.map_append] at nodup
      exact (List.nodup_append.mp nodup).2.2 _ twice _ (List.mem_singleton.mpr rfl) rfl
  | none =>
      intro key record isRecord isTyped isMatch spared
      exact ends rfl key record ⟨⟨isRecord, isTyped, isMatch⟩, spared⟩

/-! ## The first record is owed -/

/-- To store another person. -/
def secondPut : Request :=
  .put (some "P@2") (.object [("name", .string "jane")]) { typeName := some "P" }

theorem checkPlace_secondPut : Write.checkPlace "P@2" (some "P") = .ok () :=
  (Store.isPlaced_iff "P@2" "P").mpr ⟨['2'], rfl⟩

theorem written_secondPut : secondPut.written (blank.after firstPut) = ["P@2"] := by
  unfold firstPut
  rw [after_put run_firstPut rfl]
  change Request.writtenBy _ (Database.put _ _ _ _).1 = _
  unfold Database.put Database.write Write.put Write.pendingPut
  simp [Write.putKey, Write.record?, checkPlace_secondPut]
  rfl

/-- A put between the query and its first pull does not end the range. -/
theorem strict_query_owes_john : ∃ range,
    (blank.after firstPut).findByIndex (.nested johnFields) none none { typeName := some "P" } =
      .ok range ∧
    ∃ hit, (((blank.after firstPut).after secondPut).pull range).1 = .ok (some hit) := by
  have inOrder : ∀ term ∈ (blank.after firstPut).queryTerms (.nested johnFields) (some "P"),
      term.AsksInOrder := by
    rw [queryTerms_johnFields]
    intro term isTerm pattern isTest
    -- The only term asks for one leaf.
    cases List.mem_singleton.mp isTerm
    cases pattern with
    | nested fields => cases isTest
    | literal value => cases isTest
    | regex regex => cases isTest
    | predicate test => cases isTest
    | operator operator => cases isTest
  have someTerm : (blank.after firstPut).queryTerms (.nested johnFields) (some "P") ≠ [] := by
    rw [queryTerms_johnFields]
    exact List.cons_ne_nil _ _
  rcases strict_query_under_writes reachable_after_firstPut
    (consistent_iff.mpr indexesHold_after_firstPut) searchable_johnFields inOrder someTerm none
    false with ⟨range, opened, reads⟩
  refine ⟨range, opened, ?_⟩
  have reads := (reads [.call secondPut] (List.forall_mem_singleton.mpr rfl)).2
  change match (((blank.after firstPut).after secondPut).pull range).1 with
    | .ok (some hit) => _
    | .ok none => _
    | .error _ => _ at reads
  cases pulled : (((blank.after firstPut).after secondPut).pull range).1 with
  | error cause =>
      rw [pulled] at reads
      exact reads.elim
  | ok hit =>
      cases hit with
      | some hit => exact ⟨hit, rfl⟩
      | none =>
          rw [pulled] at reads
          have spared : "P@1" ∉ (blank.after firstPut).writtenIn [.call secondPut] := by
            change "P@1" ∉ secondPut.written (blank.after firstPut) ++ []
            rw [written_secondPut]
            decide
          cases reads "P@1" john found_firstPut rfl rfl spared

end Database

end RecordIndex
