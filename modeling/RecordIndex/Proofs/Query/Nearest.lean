import RecordIndex.Proofs.Database.Renewing
import RecordIndex.Proofs.Index.TypeRange
import RecordIndex.Proofs.Query.Hits
import RecordIndex.Proofs.Query.Sorting
import RecordIndex.Proofs.Table.Upcoming

namespace RecordIndex

/-!
# The nearest records

A vector query compares the stored vectors one after another, in the order of
their keys.  To sort the hits it compares all of them before the first hit is
handed out, and this changes nothing but the order: the same records are near,
at the same distances, and those at one distance stay in the order of their
keys.
-/

/-- The keys of one type, or all keys. -/
theorem Store.inRange_keyRange_iff (typeName : Option String) (key : String) :
    ((keyRange typeName).1.startsBy key && (keyRange typeName).2.stopsAfter key) = true ↔
      ∀ name ∈ typeName, IsIdentity name key := by
  cases typeName with
  | none => exact ⟨fun _ => nofun, fun _ => rfl⟩
  | some name =>
      refine (inRange_iff name key).trans ⟨fun isIdentity other isName => ?_, fun each => each name rfl⟩
      cases isName
      exact isIdentity

/-- Numbers compare by their places. -/
theorem Single.compare?_of_numbers {x y : Single} (isNumber : x.isNaN = false)
    (isNumber' : y.isNaN = false) : x.compare? y = some (compare x.rank y.rank) := by
  unfold compare?
  rw [isNumber, isNumber']
  rfl

namespace VectorScan

variable {batch : Nat}

theorem step_of_rest_nil (positive : 0 < batch) {store : Store} {scan : VectorScan}
    (isRest : scan.rows.rest store.vectors = []) :
    ∃ rows, Source.step batch store scan = (.ends, { scan with rows }) := by
  have comes := Scan.next_spec positive store.vectors scan.rows
  change ∃ rows, scan.step batch store = _
  unfold step
  split at comes
  · rename_i rows isNext
    rw [isNext]
    exact ⟨rows, rfl⟩
  · rw [isRest] at comes
    cases comes

/-- A step compares the first of the rows to come. -/
theorem step_of_rest_cons (positive : 0 < batch) {store : Store} {scan : VectorScan}
    {row : String × FeatureVector} {others : List (String × FeatureVector)}
    (isRest : scan.rows.rest store.vectors = row :: others) :
    ∃ rows, rows.rest store.vectors = others ∧ Source.step batch store scan =
      (((scan.candidate? row).map Progress.yields).getD .continues, { scan with rows }) := by
  have comes := Scan.next_spec positive store.vectors scan.rows
  change ∃ rows, _ ∧ scan.step batch store = _
  unfold step
  split at comes
  · rw [isRest] at comes
    cases comes
  · rename_i first rows isNext
    rw [isRest] at comes
    rcases List.cons.inj comes with ⟨rfl, rfl⟩
    rw [isNext]
    refine ⟨rows, rfl, ?_⟩
    dsimp only
    split
    · rename_i candidate isCandidate
      rw [isCandidate]
      rfl
    · rename_i noCandidate
      rw [noCandidate]
      rfl

/-- The candidates are made of the rows to come. -/
theorem drain_eq (positive : 0 < batch) (store : Store) (scan : VectorScan) :
    Source.drain batch store scan =
      .ok ((scan.rows.rest store.vectors).filterMap scan.candidate?) := by
  generalize isRest : scan.rows.rest store.vectors = rows
  induction rows generalizing scan with
  | nil =>
      rcases step_of_rest_nil positive isRest with ⟨rows, isStep⟩
      exact Source.drain_eq isStep
  | cons row others ih =>
      rcases step_of_rest_cons positive isRest with ⟨rows, isLeft, isStep⟩
      have drained := ih { scan with rows } isLeft
      cases isCandidate : scan.candidate? row with
      | none =>
          rw [isCandidate] at isStep
          rw [Source.drain_eq isStep, List.filterMap_cons_none isCandidate]
          exact drained
      | some candidate =>
          rw [isCandidate] at isStep
          rw [Source.drain_eq isStep, List.filterMap_cons_some isCandidate]
          exact congrArg (Except.map (candidate :: ·)) drained

/-- A stored vector makes a candidate if it shares a place with the vector of
the query and its distance from that is within reach. -/
theorem candidate?_eq_some_iff (scan : VectorScan) (row : String × FeatureVector)
    (candidate : Candidate Single) :
    scan.candidate? row = some candidate ↔
      candidate.id = row.1 ∧ Distance.shared scan.vector row.2 ≠ [] ∧
        candidate.mark = scan.options.distance.measure (Distance.shared scan.vector row.2) ∧
        scan.options.admits candidate.mark = true := by
  unfold candidate? Distance.between?
  dsimp only
  split
  · rename_i shareNothing
    exact ⟨nofun, fun near => absurd (List.isEmpty_iff.mp shareNothing) near.2.1⟩
  · rename_i share
    have share := fun nothing => share (List.isEmpty_iff.mpr nothing)
    rw [Option.map_eq_some_iff]
    constructor
    · rintro ⟨distance, isDistance, rfl⟩
      rcases Option.filter_eq_some_iff.mp isDistance with ⟨same, admitted⟩
      cases same
      exact ⟨rfl, share, rfl, admitted⟩
    · rintro ⟨isKey, _, isDistance, admitted⟩
      refine ⟨candidate.mark, Option.filter_eq_some_iff.mpr ⟨?_, admitted⟩, ?_⟩
      · rw [isDistance]
      · rw [← isKey]

end VectorScan

namespace VectorOptions

/-- The candidates of a query, in the order of their keys. -/
def candidates (options : VectorOptions) (store : Store) (places : FeatureVector) :
    List (Candidate Single) :=
  (store.vectors.range (Store.keyRange options.typeName).1
    (Store.keyRange options.typeName).2).filterMap
      (VectorScan.forQuery places options).candidate?

theorem drain_forQuery {batch : Nat} (positive : 0 < batch) (store : Store)
    (places : FeatureVector) (options : VectorOptions) :
    Source.drain batch store (VectorScan.forQuery places options) =
      .ok (options.candidates store places) :=
  VectorScan.drain_eq positive store _

/-- What is admitted is a number within reach. -/
theorem admits_iff (options : VectorOptions) (distance : Single) :
    options.admits distance = true ↔
      distance.isNaN = false ∧ ∀ reach ∈ options.maxDistance, distance.atMost reach = true := by
  unfold admits
  rw [Bool.and_eq_true, Bool.not_eq_true', Option.all_eq_true]
  exact Iff.rfl

/-- A candidate is the record of a vector that shares a place with the one of the
query and lies within reach of it. -/
theorem mem_candidates_iff (options : VectorOptions) (store : Store) (places : FeatureVector)
    (candidate : Candidate Single) :
    candidate ∈ options.candidates store places ↔
      (∀ name ∈ options.typeName, Store.IsIdentity name candidate.id) ∧
      (∃ row, store.vectors.get? candidate.id = some row ∧ Distance.shared places row ≠ [] ∧
        candidate.mark = options.distance.measure (Distance.shared places row)) ∧
      options.admits candidate.mark = true := by
  unfold candidates
  rw [List.mem_filterMap]
  constructor
  · rintro ⟨⟨key, row⟩, member, isCandidate⟩
    rcases (Table.mem_range_iff _).mp member with ⟨isRow, inRange⟩
    rcases (VectorScan.candidate?_eq_some_iff _ _ _).mp isCandidate with
      ⟨rfl, share, isDistance, admitted⟩
    exact ⟨(Store.inRange_keyRange_iff _ _).mp inRange, ⟨row, isRow, share, isDistance⟩, admitted⟩
  · rintro ⟨isTyped, ⟨row, isRow, share, isDistance⟩, admitted⟩
    refine ⟨(candidate.id, row), (Table.mem_range_iff _).mpr ⟨isRow, ?_⟩, ?_⟩
    · exact (Store.inRange_keyRange_iff _ _).mpr isTyped
    · exact (VectorScan.candidate?_eq_some_iff _ _ _).mpr ⟨rfl, share, isDistance, admitted⟩

/-- The candidates come in the order of their keys. -/
theorem candidates_pairwise (options : VectorOptions) (store : Store) (places : FeatureVector) :
    (options.candidates store places).Pairwise fun candidate later =>
      compare candidate.id later.id = .lt := by
  refine List.Pairwise.filterMap _ ?_ (store.vectors.ascending_range _ _)
  intro row later before candidate isCandidate candidate' isCandidate'
  rw [((VectorScan.candidate?_eq_some_iff _ _ _).mp isCandidate).1,
    ((VectorScan.candidate?_eq_some_iff _ _ _).mp isCandidate').1]
  exact before

end VectorOptions

namespace Database

/-- The vector that the distances of a query are measured from. -/
def placesOf (database : Database) (query : VectorQuery) (typeName : Option String) :
    Except Error FeatureVector := do
  queryVector (← database.vectorSchema typeName) query

/-- What is done with the hits of a query that hands out all of them. -/
def wholePage (valueMatch : Option Pattern) (select : Option Projection) : Page :=
  ⟨valueMatch, select, 0, none⟩

/-- A hit is near if its record is of the type that is looked for and passes the
check, and its vector shares a place with the one of the query and lies within
reach of it, at the distance that the hit tells. -/
structure IsNear (database : Database) (places : FeatureVector) (valueMatch : Option Pattern)
    (select : Option Projection) (options : VectorOptions) (hit : Hit Single) : Prop where
  isTyped : ∀ name ∈ options.typeName, Store.IsIdentity name hit.key
  isMeasured : ∃ row, database.store.vectors.get? hit.key = some row ∧
    Distance.shared places row ≠ [] ∧
    hit.mark = options.distance.measure (Distance.shared places row)
  isNumber : hit.mark.isNaN = false
  isReached : ∀ reach ∈ options.maxDistance, hit.mark.atMost reach = true
  isShown : ∃ record, database.store.records.get? hit.key = some record ∧
    (wholePage valueMatch select).admits record.value = true ∧
    (wholePage valueMatch select).Shows record hit

/-- The hits come in the order of their keys. -/
def InKeyOrder (hits : List (Hit Single)) : Prop :=
  hits.Pairwise fun hit later => compare hit.key later.key = .lt

/-- The hits come by ascending distances, and those at one distance in the order
of their keys. -/
def InDistanceOrder (hits : List (Hit Single)) : Prop :=
  hits.Pairwise fun hit later => hit.mark.compare? later.mark = some .lt ∨
    hit.mark.compare? later.mark = some .eq ∧ compare hit.key later.key = .lt

variable {database : Database}

theorem mem_hits_iff_isNear (places : FeatureVector) (valueMatch : Option Pattern)
    (select : Option Projection) (options : VectorOptions) (hit : Hit Single) :
    hit ∈ (options.candidates database.store places).filterMap
        ((wholePage valueMatch select).hit? database.store) ↔
      database.IsNear places valueMatch select options hit := by
  rw [Page.mem_hits_iff, VectorOptions.mem_candidates_iff, VectorOptions.admits_iff]
  constructor
  · rintro ⟨⟨isTyped, isMeasured, isNumber, isReached⟩, isShown⟩
    exact ⟨isTyped, isMeasured, isNumber, isReached, isShown⟩
  · rintro ⟨isTyped, isMeasured, isNumber, isReached, isShown⟩
    exact ⟨⟨isTyped, isMeasured, isNumber, isReached⟩, isShown⟩

theorem inKeyOrder_hits (page : Page) (store : Store) {candidates : List (Candidate Single)}
    (ordered : candidates.Pairwise fun candidate later => compare candidate.id later.id = .lt) :
    InKeyOrder (candidates.filterMap (page.hit? store)) := by
  refine ordered.filterMap _ fun candidate later before hit isHit hit' isHit' => ?_
  rw [(Page.hit?_eq_some isHit).1, (Page.hit?_eq_some isHit').1]
  exact before

/-- Distances that are numbers are ordered by the places of the numbers. -/
theorem inDistanceOrder_hits (page : Page) (store : Store) {candidates : List (Candidate Single)}
    (ordered : candidates.Pairwise fun candidate later => compare candidate.id later.id = .lt)
    (areNumbers : ∀ candidate ∈ candidates, candidate.mark.isNaN = false) :
    InDistanceOrder ((sortByDistance candidates).filterMap (page.hit? store)) := by
  have isNumber {candidate : Candidate Single} (member : candidate ∈ sortByDistance candidates) :
      candidate.mark.isNaN = false :=
    areNumbers candidate (List.mem_mergeSort.mp member)
  have sorted : (sortByDistance candidates).Pairwise fun candidate later =>
      candidate.mark.compare? later.mark = some .lt ∨
        candidate.mark.compare? later.mark = some .eq ∧ compare candidate.id later.id = .lt := by
    refine (sortByDistance_pairwise candidates).imp_of_mem fun member member' inOrder => ?_
    rw [Single.compare?_of_numbers (isNumber member) (isNumber member')]
    rcases inOrder with less | ⟨same, stands⟩
    · exact .inl (congrArg some (Int.compare_eq_lt.mpr less))
    · exact .inr ⟨congrArg some (Int.compare_eq_eq.mpr same),
        List.pairwise_iff_forall_sublist.mp ordered stands⟩
  refine sorted.filterMap _ fun candidate later inOrder hit isHit hit' isHit' => ?_
  rcases Page.hit?_eq_some isHit with ⟨key, mark, _⟩
  rcases Page.hit?_eq_some isHit' with ⟨key', mark', _⟩
  rw [key, mark, key', mark']
  exact inOrder

/-- The range of a query, once it is known what it asks for. -/
theorem findByVector_eq (readsRows : 0 < database.config.scanBatch) (query : VectorQuery)
    (valueMatch : Option Pattern) (select : Option Projection) (options : VectorOptions) :
    database.findByVector query valueMatch select options = (do
      options.validate
      let places ← database.placesOf query options.typeName
      return ⟨if options.sort then .listed (sortByDistance (options.candidates database.store places))
        else .streaming (.forQuery places options),
        ⟨valueMatch, select, options.offset, options.limit⟩⟩) := by
  unfold findByVector placesOf
  cases options.validate with
  | error cause => rfl
  | ok _ =>
      cases database.vectorSchema options.typeName with
      | error cause => rfl
      | ok schema =>
          cases isPlaces : queryVector schema query with
          | error cause =>
              simp only [bind, Except.bind, isPlaces]
          | ok places =>
              simp only [bind, Except.bind, isPlaces]
              unfold VectorRange.ofScan
              rw [VectorOptions.drain_forQuery readsRows]
              have sorts : (VectorScan.forQuery places options).options.sort = options.sort := rfl
              rw [sorts]
              cases options.sort with
              | true => rfl
              | false => rfl

/-- To sort the hits of a query changes nothing but their order.  Either way the
same hits are handed out, at the same distances: those of the records that are
near. -/
theorem sorting_reorders (readsRows : 0 < database.config.scanBatch) (query : VectorQuery)
    (valueMatch : Option Pattern) (select : Option Projection) (options : VectorOptions) :
    let unsorted : VectorOptions := { options with sort := false, offset := 0, limit := none }
    let sorted : VectorOptions := { unsorted with sort := true }
    match database.findByVector query valueMatch select unsorted with
    | .error cause => database.findByVector query valueMatch select sorted = .error cause
    | .ok range => ∃ places sortedRange hits sortedHits,
        database.placesOf query options.typeName = .ok places ∧
        database.findByVector query valueMatch select sorted = .ok sortedRange ∧
        database.Reads range hits ∧ database.Reads sortedRange sortedHits ∧
        sortedHits.Perm hits ∧ InKeyOrder hits ∧ InDistanceOrder sortedHits ∧
        forall hit, hit ∈ hits ↔ database.IsNear places valueMatch select options hit := by
  intro unsorted sorted
  have whole : (wholePage valueMatch select).IsWhole := ⟨rfl, rfl⟩
  rw [findByVector_eq readsRows, findByVector_eq readsRows]
  have sameCheck : sorted.validate = unsorted.validate := rfl
  rw [sameCheck]
  cases unsorted.validate with
  | error cause => rfl
  | ok _ =>
      have sameType : sorted.typeName = options.typeName := rfl
      have sameType' : unsorted.typeName = options.typeName := rfl
      rw [sameType, sameType']
      cases isPlaces : database.placesOf query options.typeName with
      | error cause => rfl
      | ok places =>
          let candidates := options.candidates database.store places
          have ordered := options.candidates_pairwise database.store places
          have areNumbers : ∀ candidate ∈ candidates, candidate.mark.isNaN = false :=
            fun candidate isCandidate => ((VectorOptions.admits_iff _ _).mp
              ((VectorOptions.mem_candidates_iff _ _ _ _).mp isCandidate).2.2).1
          refine ⟨places, _, candidates.filterMap ((wholePage valueMatch select).hit? database.store),
            (sortByDistance candidates).filterMap ((wholePage valueMatch select).hit? database.store),
            rfl, rfl, ?_, ?_, ?_, ?_, ?_, ?_⟩
          · exact reads_of_drain whole _ ((Source.drain_streaming _ _ _).trans
              (VectorOptions.drain_forQuery readsRows database.store places unsorted))
          · exact reads_of_drain whole _ (Source.drain_listed _ _ _)
          · exact (List.mergeSort_perm candidates _).filterMap _
          · exact inKeyOrder_hits _ _ ordered
          · exact inDistanceOrder_hits _ _ ordered areNumbers
          · exact mem_hits_iff_isNear places valueMatch select options

/-- To look for people near the one whose name is told. -/
def nearJohn : VectorOptions where
  typeName := some "P"
  distance := .manhattan

/-- Sorted or not, that person is handed out, at no distance. -/
theorem sorting_reorders_chartedJohn :
    ∃ range sortedRange hits sortedHits,
      chartedJohn.findByVector (.vector [some .one]) none none nearJohn = .ok range ∧
      chartedJohn.findByVector (.vector [some .one]) none none { nearJohn with sort := true } =
        .ok sortedRange ∧
      chartedJohn.Reads range hits ∧ chartedJohn.Reads sortedRange sortedHits ∧
      sortedHits.Perm hits ∧
      (⟨"P@1", john.value, 1, .zero⟩ : Hit Single) ∈ hits := by
  have readsRows : 0 < chartedJohn.config.scanBatch :=
    (orderly_of_reachable reachable_chartedJohn).readsRows
  have reorders := sorting_reorders readsRows (.vector [some .one]) none none nearJohn
  dsimp only at reorders
  have isPlaces : chartedJohn.placesOf (.vector [some .one]) (some "P") = .ok [some .one] := by
    unfold placesOf vectorSchema
    rw [keepsVectors_chartedJohn]
    dsimp only
    rw [isSchema_chartedJohn]
    rfl
  split at reorders
  · rename_i cause fails
    rw [findByVector_eq readsRows] at fails
    have isPlaces : chartedJohn.placesOf (.vector [some .one]) nearJohn.typeName =
        .ok [some .one] := isPlaces
    rw [isPlaces] at fails
    cases fails
  · rename_i range opened
    rcases reorders with ⟨places, sortedRange, hits, sortedHits, isPlaces', openedToo, reads,
      readsToo, perm, _, _, near⟩
    cases isPlaces.symm.trans isPlaces'
    refine ⟨range, sortedRange, hits, sortedHits, opened, openedToo, reads, readsToo, perm,
      (near _).mpr ⟨?_, ?_, by decide, nofun, ?_⟩⟩
    · rintro _ ⟨⟩
      exact ⟨['1'], rfl⟩
    · refine ⟨[some .one], ?_, nofun, by decide⟩
      rw [Table.get?, vectors_chartedJohn]
      rfl
    · refine ⟨john, ?_, rfl, rfl, rfl⟩
      rw [Table.get?, records_chartedJohn]
      rfl

end Database

end RecordIndex
