import RecordIndex.Proofs.Index.TypeRange
import RecordIndex.Proofs.Query.Hits

namespace RecordIndex

/-!
# Queries for a type

A query for a type only hands out records whose keys are identities of the
type.  This is a property of the machine that yields the candidates, whatever
it reads: rows are fetched from the range of the type, and an entry of an index
is let through if its record has an identity of the type.  So it holds on every
store, also on one that changes while the hits are pulled.
-/

/-- The scan has only fetched rows with such keys, and fetches no others. -/
structure Scan.Within {Key Data : Type} [Ord Key] (inside : Key -> Prop) (scan : Scan Key Data) :
    Prop where
  fetched : ∀ row ∈ scan.buffer, inside row.1
  fetches : forall key, (scan.start.startsBy key && scan.stop.stopsAfter key) = true -> inside key

namespace Scan

variable {Key Data : Type} [Ord Key] {inside : Key -> Prop} {scan : Scan Key Data}

theorem within_ofBounds {start stop : Bound Key}
    (fetches : forall key, (start.startsBy key && stop.stopsAfter key) = true -> inside key) :
    (ofBounds start stop : Scan Key Data).Within inside :=
  ⟨nofun, fetches⟩

variable [Std.TransOrd Key]

theorem Within.refill (within : scan.Within inside) (batch : Nat) (table : Table Key Data) :
    (scan.refill batch table).Within inside := by
  have rows : ∀ row ∈ (table.range scan.start scan.stop).take batch,
      (scan.start.startsBy row.1 && scan.stop.stopsAfter row.1) = true :=
    fun row member => (List.mem_filter.mp (List.mem_of_mem_take member)).2
  refine ⟨fun row member => within.fetches row.1 (rows row member), fun key inRange => ?_⟩
  unfold Scan.refill at inRange
  dsimp only at inRange
  split at inRange
  · rename_i last isLast
    rcases Bool.and_eq_true_iff.mp inRange with ⟨after, stops⟩
    have lastStarts := (Bool.and_eq_true_iff.mp (rows last (List.mem_of_getLast? isLast))).1
    exact within.fetches key (Bool.and_eq_true_iff.mpr
      ⟨startsBy_of_after lastStarts after, stops⟩)
  · exact within.fetches key inRange

theorem Within.next (within : scan.Within inside) {batch : Nat} {table : Table Key Data}
    {row : Option (Key × Data)} {after : Scan Key Data}
    (reads : scan.next batch table = (row, after)) :
    after.Within inside ∧ ∀ read ∈ row, inside read.1 := by
  have filled : (scan.fill batch table).Within inside := by
    unfold fill
    split
    · exact within.refill batch table
    · exact within
  unfold Scan.next at reads
  dsimp only at reads
  split at reads
  · cases reads
    exact ⟨filled, nofun⟩
  · rename_i first rest isBuffer
    cases reads
    have fetched := filled.fetched
    rw [isBuffer] at fetched
    refine ⟨⟨fun row member => fetched row (List.mem_cons_of_mem first member), filled.fetches⟩, ?_⟩
    intro read same
    cases same
    exact fetched first List.mem_cons_self

end Scan

/-! ## Sources -/

/-- Whatever it reads, a source of this kind remains one and only yields such
candidates. -/
structure Source.Confined {S Mark : Type} [Source S Mark] (inside : String -> Prop)
    (isKind : S -> Prop) : Prop where
  remains : forall {batch store source progress after}, isKind source ->
    Source.step batch store source = (progress, after) -> isKind after
  yields : forall {batch store source candidate after}, isKind source ->
    Source.step batch store source = (.yields candidate, after) -> inside candidate.id

namespace Source

variable {S Mark : Type} [Source S Mark] {inside : String -> Prop} {isKind : S -> Prop}

theorem Confined.drain (confined : Confined inside isKind) {batch : Nat} {store : Store}
    (source : S) (start : isKind source) {candidates : List (Candidate Mark)}
    (drained : Source.drain batch store source = .ok candidates) :
    ∀ candidate ∈ candidates, inside candidate.id := by
  induction source using @Source.drain.induct S Mark _ batch store generalizing candidates with
  | case1 source first after isStep ih =>
      rw [drain_eq isStep] at drained
      cases isRest : Source.drain batch store after with
      | error cause =>
          rw [isRest] at drained
          cases drained
      | ok rest =>
          rw [isRest] at drained
          cases drained
          intro candidate member
          rcases List.mem_cons.mp member with rfl | later
          · exact confined.yields start isStep
          · exact ih (confined.remains start isStep) isRest candidate later
  | case2 source after isStep ih =>
      rw [drain_eq isStep] at drained
      exact ih (confined.remains start isStep) drained
  | case3 source cause after isStep =>
      rw [drain_eq isStep] at drained
      cases drained
  | case4 source after isStep =>
      rw [drain_eq isStep] at drained
      cases drained
      exact fun candidate member => absurd member List.not_mem_nil

/-- Candidates that are read as they are pulled are those of the source, and
listed ones are known. -/
def KindOf (inside : String -> Prop) (isKind : S -> Prop) (candidates : Candidates S Mark) : Prop :=
  match candidates with
  | .streaming source => isKind source
  | .listed candidates => ∀ candidate ∈ candidates, inside candidate.id

theorem Confined.candidates (confined : Confined inside isKind) :
    Confined inside (KindOf inside isKind : Candidates S Mark -> Prop) where
  remains {batch store candidates progress after} start isStep := by
    cases candidates with
    | streaming source =>
        cases isStep
        have isSource : Source.step batch store source = Source.step batch store source := rfl
        exact confined.remains start isSource
    | listed candidates =>
        cases candidates with
        | nil =>
            cases isStep
            exact start
        | cons first rest =>
            cases isStep
            exact fun candidate member => start candidate (List.mem_cons_of_mem first member)
  yields {batch store candidates candidate after} start isStep := by
    cases candidates with
    | streaming source =>
        rcases isSource : Source.step batch store source with ⟨progress, later⟩
        have forwards : Source.step batch store (Candidates.streaming source : Candidates S Mark) =
            ((Source.step batch store source).1,
              .streaming (Source.step batch store source).2) := rfl
        rw [forwards, isSource] at isStep
        cases isStep
        exact confined.yields start isSource
    | listed candidates =>
        cases candidates with
        | nil => cases isStep
        | cons first rest =>
            cases isStep
            exact start _ List.mem_cons_self

end Source

/-! ## Pulling -/

namespace Database

variable {S Mark : Type} [Source S Mark]

/-- The range hands out this hit when it is pulled on this database, at once or
after it has been pulled on others, which may be earlier states of it. -/
inductive HandsOut (database : Database) : Range S -> Hit Mark -> Prop where
  | now {range later : Range S} {hit : Hit Mark}
      (pulled : database.pull range = (.ok (some hit), later)) : HandsOut database range hit
  | later {other : Database} {range later : Range S} {outcome : Except Error (Option (Hit Mark))}
      {hit : Hit Mark} (pulled : other.pull range = (outcome, later))
      (handsOut : HandsOut database later hit) : HandsOut database range hit

/-- What a database reads of a range is handed out. -/
theorem Reads.handsOut {database : Database} {range : Range S} {hits : List (Hit Mark)}
    (reads : database.Reads range hits) : ∀ hit ∈ hits, database.HandsOut range hit := by
  induction reads with
  | ended pulled => exact nofun
  | hit pulled reads ih =>
      intro hit member
      rcases List.mem_cons.mp member with rfl | later
      · exact .now pulled
      · exact .later pulled (ih hit later)

/-- A record that is loaded is there. -/
theorem exists_record_of_load {page after : Page} {store : Store} {id : String}
    {loaded : Value × Nat} (isLoaded : page.load store id = (some loaded, after)) :
    ∃ record, store.records.get? id = some record := by
  unfold Page.load at isLoaded
  split at isLoaded
  · cases isLoaded
  · rename_i record isRecord
    exact ⟨record, isRecord⟩

/-- A pull keeps the kind of the source, and what it hands out is a record of
the database under such a key. -/
theorem confined_pull {inside : String -> Prop} {isKind : S -> Prop}
    (confined : Source.Confined inside isKind) (database : Database) (range : Range S)
    (start : isKind range.source) {outcome : Except Error (Option (Hit Mark))} {later : Range S}
    (pulled : database.pull range = (outcome, later)) :
    isKind later.source ∧ forall hit, outcome = .ok (some hit) ->
      inside hit.key ∧ ∃ record, database.store.records.get? hit.key = some record := by
  induction range using @Range.next.induct S Mark _ database.config.scanBatch
    database.store generalizing outcome later with
  | case1 range isExhausted =>
      have same : database.pull range = (.ok none, range) := by
        unfold pull Range.next
        rw [if_pos isExhausted]
      cases same.symm.trans pulled
      exact ⟨start, nofun⟩
  | case2 range more candidate source isStep value version page isLoaded =>
      have same := pull_eq ((Bool.not_eq_true _).mp more) isStep
      dsimp only at same
      rw [isLoaded] at same
      cases same.symm.trans pulled
      refine ⟨confined.remains start isStep, fun hit isHit => ?_⟩
      cases isHit
      exact ⟨confined.yields start isStep, exists_record_of_load isLoaded⟩
  | case3 range more candidate source isStep page isLoaded ih =>
      have same := pull_eq ((Bool.not_eq_true _).mp more) isStep
      dsimp only at same
      rw [isLoaded] at same
      exact ih (confined.remains start isStep) (same.symm.trans pulled)
  | case4 range more source isStep ih =>
      have same := pull_eq ((Bool.not_eq_true _).mp more) isStep
      exact ih (confined.remains start isStep) (same.symm.trans pulled)
  | case5 range more cause source isStep =>
      have same := pull_eq ((Bool.not_eq_true _).mp more) isStep
      cases same.symm.trans pulled
      exact ⟨confined.remains start isStep, nofun⟩
  | case6 range more source isStep =>
      have same := pull_eq ((Bool.not_eq_true _).mp more) isStep
      cases same.symm.trans pulled
      exact ⟨confined.remains start isStep, nofun⟩

/-- Whatever is pulled before, what a range hands out is a record of the
database under such a key. -/
theorem HandsOut.inside {inside : String -> Prop} {isKind : S -> Prop}
    (confined : Source.Confined inside isKind) {database : Database} {range : Range S}
    {hit : Hit Mark} (handsOut : database.HandsOut range hit) (start : isKind range.source) :
    inside hit.key ∧ ∃ record, database.store.records.get? hit.key = some record := by
  induction handsOut with
  | now pulled => exact (confined_pull confined database _ start pulled).2 _ rfl
  | later pulled handsOut ih => exact ih (confined_pull confined _ _ start pulled).1

end Database

/-! ## Searches -/

theorem Rows.erase_subset {Key Data : Type} [Ord Key] (key : Key) (rows : List (Key × Data)) :
    erase key rows ⊆ rows :=
  fun _ member => (List.mem_filter.mp member).1

theorem Table.eraseAll_subset {Key Data : Type} [Ord Key] (keys : List Key)
    (table : Table Key Data) : (table.eraseAll keys).rows ⊆ table.rows := by
  induction keys generalizing table with
  | nil => exact List.Subset.refl _
  | cons key rest ih => exact List.Subset.trans (ih (table.erase key)) (Rows.erase_subset key _)

namespace IndexMatches

/-- The search is one for a type, and all that it knows are identities of the
type. -/
structure Inside (typeName : String) (search : IndexMatches) : Prop where
  isType : search.typeName = some typeName
  waiting : ∀ candidate ∈ search.pending, Store.IsIdentity typeName candidate.id
  counted : ∀ row ∈ search.counts.rows, Store.IsIdentity typeName row.1
  reads : ∀ records ∈ search.fallback, records.Within (Store.IsIdentity typeName)

variable {typeName : String} {search : IndexMatches}

theorem Inside.emit (inside : search.Inside typeName) {id : String}
    (isIdentity : Store.IsIdentity typeName id) (score : Nat) :
    (search.emit id score).Inside typeName := by
  unfold IndexMatches.emit
  split
  · refine ⟨inside.isType, fun candidate member => ?_, inside.counted, inside.reads⟩
    rcases List.mem_append.mp member with before | isThis
    · exact inside.waiting candidate before
    · cases List.mem_singleton.mp isThis
      exact isIdentity
  · exact inside

theorem Inside.credit (inside : search.Inside typeName) {id : String}
    (isIdentity : Store.IsIdentity typeName id) : (search.credit id).Inside typeName := by
  by_cases known : id ∈ search.credited
  · rw [credit_of_mem known]
    exact inside
  · by_cases isCandidate : search.isCandidate id = true
    · have counted : (search.counted id).Inside typeName := by
        refine ⟨inside.isType, inside.waiting, fun row member => ?_, inside.reads⟩
        rcases Rows.mem_of_mem_insert member with rfl | before
        · exact isIdentity
        · exact inside.counted row before
      rw [credit_of_isCandidate known isCandidate]
      split
      · exact counted.emit isIdentity _
      · exact counted
    · rw [credit_of_fallen known isCandidate]
      exact ⟨inside.isType, inside.waiting, inside.counted, inside.reads⟩

theorem Inside.endPhase (inside : search.Inside typeName) : search.endPhase.Inside typeName := by
  have emitted : forall (rows : List (String × Nat)) (start : IndexMatches),
      start.Inside typeName -> (∀ row ∈ rows, Store.IsIdentity typeName row.1) ->
        (rows.foldl (fun search row => search.emit row.1 row.2) start).Inside typeName := by
    intro rows
    induction rows with
    | nil => exact fun _ inside _ => inside
    | cons row rest ih =>
        intro start inside areIdentities
        exact ih _ (inside.emit (areIdentities row List.mem_cons_self) row.2)
          fun row later => areIdentities row (List.mem_cons_of_mem _ later)
  have fallen : ∀ row ∈ search.fallenOut, Store.IsIdentity typeName row.1 :=
    fun row member => inside.counted row (List.mem_filter.mp member).1
  have without : search.withoutFallen.Inside typeName :=
    ⟨inside.isType, inside.waiting,
      fun row member => inside.counted row (Table.eraseAll_subset _ _ member), inside.reads⟩
  have dropped : search.dropFallen.Inside typeName := by
    rw [dropFallen_eq]
    refine emitted _ _ without fun row member => ?_
    split at member
    · exact fallen row member
    · cases member
  exact ⟨dropped.isType, dropped.waiting, dropped.counted, dropped.reads⟩

/-- An entry that a scan finds belongs to a record of the type. -/
theorem isIdentity_of_found {batch : Nat} {store : Store} {asked : Option String}
    (isType : asked = some typeName) {scan after : TermScan} {id : String}
    (finds : scan.step batch store asked = (.found id, after)) :
    Store.IsIdentity typeName id := by
  subst isType
  unfold TermScan.step at finds
  split at finds
  · cases finds
  · split at finds
    · rename_i entry _
      have tested := congrArg Prod.fst finds
      change scan.test (some typeName) entry = .found id at tested
      unfold TermScan.test at tested
      split at tested
      · cases tested
      · split at tested
        · split at tested
          · rename_i hasType
            cases tested
            exact (Store.isPrefixOf_iff _ _).mp hasType
          · cases tested
        · cases tested
        · split at tested
          all_goals cases tested
    · cases finds

/-- What a step comes to stays among the identities of the type. -/
def StepInside (typeName : String) (progress : Progress Nat) (after : IndexMatches) : Prop :=
  after.Inside typeName ∧ forall candidate, progress = .yields candidate ->
    Store.IsIdentity typeName candidate.id

theorem Inside.withScan (inside : search.Inside typeName) (scan : Option TermScan)
    (done : Bool) : Inside typeName { search with scan, done } :=
  ⟨inside.isType, inside.waiting, inside.counted, inside.reads⟩

theorem Inside.stepScan (inside : search.Inside typeName) {batch : Nat} {store : Store}
    {scan : TermScan} {progress : Progress Nat} {after : IndexMatches}
    (isStep : search.stepScan batch store scan = (progress, after)) :
    StepInside typeName progress after := by
  unfold IndexMatches.stepScan at isStep
  split at isStep
  · rename_i id later finds
    cases isStep
    exact ⟨(inside.withScan (some later) search.done).credit
      (isIdentity_of_found inside.isType finds), nofun⟩
  · cases isStep
    exact ⟨inside.withScan _ search.done, nofun⟩
  · cases isStep
    exact ⟨inside.endPhase, nofun⟩
  · cases isStep
    exact ⟨inside.withScan _ true, nofun⟩

theorem Inside.stepFallback (inside : search.Inside typeName) {batch : Nat} {store : Store}
    {records : Scan String StoredRecord} (isFallback : search.fallback = some records)
    {progress : Progress Nat} {after : IndexMatches}
    (isStep : search.stepFallback batch store records = (progress, after)) :
    StepInside typeName progress after := by
  have within := inside.reads records isFallback
  unfold IndexMatches.stepFallback at isStep
  split at isStep
  · rename_i row later isRow
    rcases within.next isRow with ⟨withinLater, isIdentity⟩
    have insideAfter : Inside typeName { search with fallback := some later } :=
      ⟨inside.isType, inside.waiting, inside.counted, fun _ same =>
        Option.some.inj same ▸ withinLater⟩
    dsimp only at isStep
    split at isStep
    · cases isStep
      refine ⟨insideAfter, fun candidate same => ?_⟩
      cases same
      exact isIdentity row rfl
    · cases isStep
      exact ⟨insideAfter, nofun⟩
  · rename_i later isRow
    cases isStep
    exact ⟨⟨inside.isType, inside.waiting, inside.counted, fun _ same =>
      Option.some.inj same ▸ (within.next isRow).1⟩, nofun⟩

theorem Inside.step (inside : search.Inside typeName) {batch : Nat} {store : Store}
    {progress : Progress Nat} {after : IndexMatches}
    (isStep : search.step batch store = (progress, after)) :
    StepInside typeName progress after := by
  unfold IndexMatches.step at isStep
  split at isStep
  · rename_i candidate rest isPending
    have waiting := inside.waiting
    rw [isPending] at waiting
    cases isStep
    refine ⟨⟨inside.isType, fun other member =>
      waiting other (List.mem_cons_of_mem candidate member), inside.counted, inside.reads⟩, ?_⟩
    intro other same
    cases same
    exact waiting _ List.mem_cons_self
  · split at isStep
    · cases isStep
      exact ⟨inside, nofun⟩
    · split at isStep
      · rename_i isFallback
        exact inside.stepFallback isFallback isStep
      · exact inside.stepScan isStep
      · split at isStep
        · cases isStep
          exact ⟨inside.withScan _ search.done, nofun⟩
        · cases isStep
          exact ⟨inside.withScan search.scan true, nofun⟩

/-- A search for a type stays one, and yields identities of the type. -/
theorem confined_inside (typeName : String) :
    Source.Confined (Store.IsIdentity typeName) (Inside typeName) :=
  ⟨fun inside isStep => (inside.step isStep).1,
    fun inside isStep => (inside.step isStep).2 _ rfl⟩

theorem inside_forTerms (terms : List QueryTerm) {options : IndexOptions}
    (isType : options.typeName = some typeName) (tokenized : Bool) :
    (forTerms terms options tokenized).Inside typeName := by
  refine ⟨isType, nofun, nofun, fun records isFallback => ?_⟩
  unfold forTerms at isFallback
  rw [isType] at isFallback
  dsimp only at isFallback
  split at isFallback
  · cases isFallback
    exact Scan.within_ofBounds fun key => Store.prefix_of_inRange
  · cases isFallback

end IndexMatches

/-! ## Reads of the vectors -/

namespace VectorScan

/-- The read of the vectors fetches those of a type. -/
def Inside (typeName : String) (scan : VectorScan) : Prop :=
  scan.rows.Within (Store.IsIdentity typeName)

theorem confined_inside (typeName : String) :
    Source.Confined (Store.IsIdentity typeName) (Inside typeName) := by
  have stepped {batch : Nat} {store : Store} {scan after : VectorScan}
      {progress : Progress Single} (inside : scan.Inside typeName)
      (isStep : scan.step batch store = (progress, after)) :
      after.Inside typeName ∧ forall candidate, progress = .yields candidate ->
        Store.IsIdentity typeName candidate.id := by
    unfold VectorScan.step at isStep
    split at isStep
    · rename_i row rows isRow
      rcases Scan.Within.next inside isRow with ⟨within, isIdentity⟩
      split at isStep
      · rename_i candidate isCandidate
        cases isStep
        refine ⟨within, fun other same => ?_⟩
        cases same
        rcases Option.map_eq_some_iff.mp isCandidate with ⟨distance, _, rfl⟩
        exact isIdentity row rfl
      · cases isStep
        exact ⟨within, nofun⟩
    · rename_i rows isRow
      cases isStep
      exact ⟨(Scan.Within.next inside isRow).1, nofun⟩
  exact ⟨fun inside isStep => (stepped inside isStep).1,
    fun inside isStep => (stepped inside isStep).2 _ rfl⟩

theorem inside_forQuery {typeName : String} (vector : FeatureVector) {options : VectorOptions}
    (isType : options.typeName = some typeName) : (forQuery vector options).Inside typeName := by
  unfold forQuery Inside
  rw [isType]
  exact Scan.within_ofBounds fun key => Store.prefix_of_inRange

end VectorScan

/-! ## Queries -/

namespace Database

/-- Whatever an index query for a type hands out is a record under an identity
of the type. -/
theorem inside_of_findByIndex {origin database : Database} {pattern : Pattern}
    {valueMatch : Option Pattern} {select : Option Projection} {options : IndexOptions}
    {typeName : String} (isType : options.typeName = some typeName) {range : IndexRange}
    (opened : origin.findByIndex pattern valueMatch select options = .ok range) {hit : Hit Nat}
    (handsOut : database.HandsOut range hit) : Store.IsIdentity typeName hit.key ∧
      ∃ record, database.store.records.get? hit.key = some record := by
  have confined := IndexMatches.confined_inside typeName
  have start : (origin.search pattern options).Inside typeName :=
    IndexMatches.inside_forTerms _ isType _
  refine handsOut.inside confined.candidates ?_
  unfold findByIndex at opened
  cases valid : options.validate with
  | error cause =>
      rw [valid] at opened
      cases opened
  | ok _ =>
      rw [valid] at opened
      change IndexRange.ofMatches _ _ _ _ _ = _ at opened
      unfold IndexRange.ofMatches at opened
      split at opened
      · rcases drained : Source.drain origin.config.scanBatch origin.store
          (origin.search pattern options) with cause | candidates
        · rw [drained] at opened
          cases opened
        · rw [drained] at opened
          cases opened
          intro candidate member
          refine confined.drain _ start drained candidate ?_
          split at member
          · exact (List.mergeSort_perm candidates _).mem_iff.mp member
          · exact member
      · cases opened
        exact start

/-- Whatever a vector query for a type hands out is a record under an identity
of the type. -/
theorem inside_of_findByVector {origin database : Database} {query : VectorQuery}
    {valueMatch : Option Pattern} {select : Option Projection} {options : VectorOptions}
    {typeName : String} (isType : options.typeName = some typeName) {range : VectorRange}
    (opened : origin.findByVector query valueMatch select options = .ok range) {hit : Hit Single}
    (handsOut : database.HandsOut range hit) : Store.IsIdentity typeName hit.key ∧
      ∃ record, database.store.records.get? hit.key = some record := by
  have confined := VectorScan.confined_inside typeName
  refine handsOut.inside confined.candidates ?_
  unfold findByVector at opened
  cases valid : options.validate with
  | error cause =>
      rw [valid] at opened
      cases opened
  | ok _ =>
      rw [valid] at opened
      cases found : origin.vectorSchema options.typeName with
      | error cause =>
          rw [found] at opened
          cases opened
      | ok schema =>
          rw [found] at opened
          rcases asked : queryVector schema query with cause | vector
          · change (queryVector schema query >>= _) = _ at opened
            rw [asked] at opened
            cases opened
          · change (queryVector schema query >>= _) = _ at opened
            rw [asked] at opened
            change VectorRange.ofScan _ _ _ _ = _ at opened
            have start : (VectorScan.forQuery vector options).Inside typeName :=
              VectorScan.inside_forQuery vector isType
            unfold VectorRange.ofScan at opened
            split at opened
            · rcases drained : Source.drain origin.config.scanBatch origin.store
                (VectorScan.forQuery vector options) with cause | candidates
              · rw [drained] at opened
                cases opened
              · rw [drained] at opened
                cases opened
                intro candidate member
                exact confined.drain _ start drained candidate
                  ((List.mergeSort_perm candidates _).mem_iff.mp member)
            · cases opened
              exact start

end Database

end RecordIndex
