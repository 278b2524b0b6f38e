import RecordIndex.Proofs.Query.Hits

namespace RecordIndex

/-!
# Paging

The offset and the limit of a query are counted down while its hits are pulled.
Only a candidate that is a hit counts: one whose record is gone or fails the
check is neither passed over nor handed out.  So a page is a slice of the hits,
whatever the source of the candidates is, and also if that fails in the end.
-/

/-! ## The limit -/

theorem map_add_zero (limit : Option Nat) : limit.map (· + 0) = limit := by
  cases limit with
  | none => rfl
  | some left => rfl

namespace Page

/-- The limit is taken one off when a record is handed out, and only then. -/
theorem limit_load {page : Page} (more : page.isExhausted = false) (store : Store) (id : String) :
    (page.load store id).2.limit.map (· + (page.load store id).1.toList.length) = page.limit := by
  have restored : (page.limit.map fun left => left - 1).map (· + 1) = page.limit := by
    unfold isExhausted at more
    cases isLimit : page.limit with
    | none => rfl
    | some left =>
        cases left with
        | zero =>
            rw [isLimit] at more
            cases more
        | succ left => rfl
  have kept := map_add_zero page.limit
  unfold load
  split
  · exact kept
  · split
    · exact kept
    · split
      · exact kept
      · exact restored

end Page

namespace Database

variable {S Mark : Type} [Source S Mark] {database : Database}

/-- The hit that a pull hands out, if it does. -/
def handed (outcome : Except Error (Option (Hit Mark))) : List (Hit Mark) :=
  match outcome with
  | .ok hit => hit.toList
  | .error _ => []

/-- The hits that so many pulls hand out, and the range that they leave. -/
def pulls (database : Database) (count : Nat) (range : Range S) : List (Hit Mark) × Range S :=
  match count with
  | 0 => ([], range)
  | count + 1 =>
      let (outcome, next) := database.pull range
      let (hits, last) := database.pulls count next
      (handed outcome ++ hits, last)

/-- A pull takes off the limit what it hands out. -/
theorem limit_pull (range : Range S) :
    (database.pull range).2.page.limit.map (· + (handed (database.pull range).1).length) =
      range.page.limit := by
  induction range using @Range.next.induct S Mark _ database.config.scanBatch database.store with
  | case1 range isExhausted =>
      have pulled : database.pull range = (.ok none, range) := by
        unfold pull Range.next
        rw [if_pos isExhausted]
      rw [pulled]
      exact map_add_zero _
  | case2 range more candidate after isStep value version page isLoaded =>
      have more := (Bool.not_eq_true _).mp more
      have pulled := pull_eq more isStep
      have taken := Page.limit_load more database.store candidate.id
      dsimp only at pulled
      rw [isLoaded] at pulled taken
      rw [pulled]
      exact taken
  | case3 range more candidate after isStep page isLoaded ih =>
      have more := (Bool.not_eq_true _).mp more
      have pulled := pull_eq more isStep
      have taken := Page.limit_load more database.store candidate.id
      dsimp only at pulled
      rw [isLoaded] at pulled taken
      rw [pulled]
      exact ih.trans ((map_add_zero _).symm.trans taken)
  | case4 range more after isStep ih =>
      rw [pull_eq ((Bool.not_eq_true _).mp more) isStep]
      exact ih
  | case5 range more cause after isStep =>
      rw [pull_eq ((Bool.not_eq_true _).mp more) isStep]
      exact map_add_zero _
  | case6 range more after isStep =>
      rw [pull_eq ((Bool.not_eq_true _).mp more) isStep]
      exact map_add_zero _

/-- What is left of the limit and what has been handed out add up. -/
theorem limit_pulls (count : Nat) (range : Range S) :
    (database.pulls count range).2.page.limit.map (· + (database.pulls count range).1.length) =
      range.page.limit := by
  induction count generalizing range with
  | zero => exact map_add_zero _
  | succ count ih =>
      let next := (database.pull range).2
      let later := database.pulls count next
      have counted : ((database.pulls (count + 1) range).1).length =
          later.1.length + (handed (database.pull range).1).length :=
        List.length_append.trans (Nat.add_comm _ _)
      calc (database.pulls (count + 1) range).2.page.limit.map
            (· + (database.pulls (count + 1) range).1.length)
        _ = (later.2.page.limit.map (· + later.1.length)).map
              (· + (handed (database.pull range).1).length) := by
            rw [Option.map_map, counted]
            exact Option.map_congr fun left _ => (Nat.add_assoc _ _ _).symm
        _ = next.page.limit.map (· + (handed (database.pull range).1).length) := by rw [ih next]
        _ = range.page.limit := limit_pull range

/-! ## Slices -/

/-- Some hits are passed over, and at most so many of the others are taken. -/
def slice (offset : Nat) (limit : Option Nat) (hits : List (Hit Mark)) : List (Hit Mark) :=
  match limit with
  | some limit => (hits.drop offset).take limit
  | none => hits.drop offset

/-- One range hands out a slice of the hits of the other.  It stops where that
stops, or without a failure where the limit is reached.  However often it is
pulled, what is left of the limit and what it has handed out add up. -/
structure Slices (database : Database) (whole paged : Range S) (offset : Nat)
    (limit : Option Nat) : Prop where
  reads : ∃ hits stop, database.ReadsUntil whole hits stop ∧
    database.ReadsUntil paged (slice offset limit hits)
      (if limit = some (slice offset limit hits).length then none else stop)
  counts : forall count, (database.pulls count paged).2.page.limit.map
    (· + (database.pulls count paged).1.length) = limit

/-- With any offset and limit, a query is answered as it is without them, and
hands out a slice of its hits. -/
def HandsOutSlices (database : Database)
    (answer : Nat -> Option Nat -> Except Error (Range S)) : Prop :=
  forall offset limit,
    match answer 0 none with
    | .error cause => answer offset limit = .error cause
    | .ok whole => ∃ paged, answer offset limit = .ok paged ∧
        database.Slices whole paged offset limit

/-- Sources that yield the same candidates are read in slices of the same hits. -/
theorem slices_of_runs {source source' : S} {candidates : List (Candidate Mark)}
    {stop : Option Error}
    (runs : Source.Runs database.config.scanBatch database.store source candidates stop)
    (runs' : Source.Runs database.config.scanBatch database.store source' candidates stop)
    (valueMatch : Option Pattern) (select : Option Projection) (offset : Nat)
    (limit : Option Nat) :
    database.Slices ⟨source, ⟨valueMatch, select, 0, none⟩⟩
      ⟨source', ⟨valueMatch, select, offset, limit⟩⟩ offset limit where
  reads := by
    let hits := candidates.filterMap (Page.hit? ⟨valueMatch, select, 0, none⟩ database.store)
    exact ⟨hits, stop, readsUntil_cut ⟨valueMatch, select, 0, none⟩ runs, readsUntil_cut _ runs'⟩
  counts := fun count => limit_pulls count _

end Database

namespace VectorScan

/-- The same read for another page. -/
def withPaging (scan : VectorScan) (offset : Nat) (limit : Option Nat) : VectorScan :=
  { scan with options := { scan.options with offset, limit } }

variable {batch : Nat} {store : Store} {scan : VectorScan}

theorem step_withPaging {progress : Progress Single} {after : VectorScan}
    (isStep : Source.step batch store scan = (progress, after)) (offset : Nat)
    (limit : Option Nat) :
    Source.step batch store (scan.withPaging offset limit) =
      (progress, after.withPaging offset limit) := by
  have sameRows : (scan.withPaging offset limit).rows = scan.rows := rfl
  have sameCandidates : (scan.withPaging offset limit).candidate? = scan.candidate? := rfl
  change scan.step batch store = (progress, after) at isStep
  change (scan.withPaging offset limit).step batch store = _
  unfold step at isStep ⊢
  rw [sameRows, sameCandidates]
  split at isStep
  · rename_i row rows _
    cases isCandidate : scan.candidate? row with
    | some candidate =>
        rw [isCandidate] at isStep
        cases isStep
        rfl
    | none =>
        rw [isCandidate] at isStep
        cases isStep
        rfl
  · cases isStep
    rfl

/-- The offset and the limit do not change which vectors are near. -/
theorem runs_withPaging {candidates : List (Candidate Single)} {stop : Option Error}
    (runs : Source.Runs batch store scan candidates stop) (offset : Nat) (limit : Option Nat) :
    Source.Runs batch store (scan.withPaging offset limit) candidates stop :=
  runs.map (f := fun scan => scan.withPaging offset limit)
    fun isStep => step_withPaging isStep offset limit

end VectorScan

namespace Database

variable {database : Database}

/-- Candidates are read as they are pulled, or all of them are read and put in
order before. -/
theorem handsOutSlices_of_runs {S Mark : Type} [Source S Mark] (source : Nat -> Option Nat -> S)
    (sameRuns : forall offset limit candidates stop,
      Source.Runs database.config.scanBatch database.store (source 0 none) candidates stop ->
        Source.Runs database.config.scanBatch database.store (source offset limit) candidates stop)
    (eager : Bool) (order : List (Candidate Mark) -> List (Candidate Mark))
    (valueMatch : Option Pattern) (select : Option Projection) :
    database.HandsOutSlices fun offset limit =>
      if eager then
        (Source.drain database.config.scanBatch database.store (source offset limit)).map
          fun candidates => (⟨.listed (order candidates), ⟨valueMatch, select, offset, limit⟩⟩ :
            Range (Candidates S Mark))
      else .ok ⟨.streaming (source offset limit), ⟨valueMatch, select, offset, limit⟩⟩ := by
  intro offset limit
  rcases Source.exists_runs database.config.scanBatch database.store (source 0 none) with
    ⟨candidates, stop, runs⟩
  have runs' := sameRuns offset limit candidates stop runs
  cases eager with
  | true =>
      dsimp only
      rw [if_pos rfl, if_pos rfl, runs.drain_eq, runs'.drain_eq]
      cases stop with
      | some cause => rfl
      | none =>
          exact ⟨_, rfl, slices_of_runs (Source.runs_listed _ _ _) (Source.runs_listed _ _ _)
            valueMatch select offset limit⟩
  | false =>
      exact ⟨_, rfl, slices_of_runs runs.streaming runs'.streaming valueMatch select offset limit⟩

/-- What a query finds out first does not depend on its page. -/
theorem handsOutSlices_of_check {S Mark Known : Type} [Source S Mark] (check : Except Error Known)
    {answer : Known -> Nat -> Option Nat -> Except Error (Range S)}
    (slices : forall known, database.HandsOutSlices (answer known)) :
    database.HandsOutSlices fun offset limit =>
      check >>= fun known => answer known offset limit := by
  intro offset limit
  cases check with
  | error cause => rfl
  | ok known => exact slices known offset limit

theorem handsOutSlices_findByIndex (pattern : Pattern) (valueMatch : Option Pattern)
    (select : Option Projection) (options : IndexOptions) :
    database.HandsOutSlices fun offset limit =>
      database.findByIndex pattern valueMatch select { options with offset, limit } := by
  let search := database.search pattern options
  refine handsOutSlices_of_check options.validate fun _ => ?_
  exact handsOutSlices_of_runs (fun _ _ => search) (fun _ _ _ _ runs => runs) search.ranked
    (fun candidates => if options.sortable then sortByScore candidates else candidates)
    (indexPage pattern valueMatch select options).valueMatch select

theorem handsOutSlices_findByVector (query : VectorQuery) (valueMatch : Option Pattern)
    (select : Option Projection) (options : VectorOptions) :
    database.HandsOutSlices fun offset limit =>
      database.findByVector query valueMatch select { options with offset, limit } := by
  refine handsOutSlices_of_check options.validate fun _ => ?_
  refine handsOutSlices_of_check (database.vectorSchema options.typeName) fun schema => ?_
  refine handsOutSlices_of_check (queryVector schema query) fun places => ?_
  exact handsOutSlices_of_runs
    (fun offset limit => (VectorScan.forQuery places options).withPaging offset limit)
    (fun offset limit _ _ runs => VectorScan.runs_withPaging runs offset limit) options.sort
    sortByDistance valueMatch select

/-- A page of a query is a slice of its hits. -/
theorem pages_are_slices (database : Database) (valueMatch : Option Pattern)
    (select : Option Projection) :
    (forall pattern (options : IndexOptions), database.HandsOutSlices fun offset limit =>
      database.findByIndex pattern valueMatch select { options with offset, limit }) ∧
    forall query (options : VectorOptions), database.HandsOutSlices fun offset limit =>
      database.findByVector query valueMatch select { options with offset, limit } :=
  ⟨fun pattern options => handsOutSlices_findByIndex pattern valueMatch select options,
    fun query options => handsOutSlices_findByVector query valueMatch select options⟩

/-- Three persons without properties, and one record that is no object. -/
def threePersons : Database where
  config := {}
  store := { Store.empty with
    records := Table.empty.insertAll [("P@1", ⟨1, none, .object []⟩), ("P@2", ⟨1, none, .null⟩),
      ("P@3", ⟨1, none, .object []⟩), ("P@4", ⟨1, none, .object []⟩)] }
  registry := .empty
  supply := .fresh

/-- Of the three hits the second is handed out.  What is no hit is not passed
over, and nothing comes behind the limit. -/
example : (threePersons.findByIndex (.nested []) none none
    { typeName := some "P", scanFallback := true, offset := 1, limit := some 1 }).map
      (fun range => (threePersons.pulls 4 range).1.map Hit.key) = .ok ["P@3"] := by
  cbv

end Database

end RecordIndex
