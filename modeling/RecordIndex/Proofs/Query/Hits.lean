import RecordIndex.Database.Queries
import RecordIndex.Proofs.Query.Search

namespace RecordIndex

/-!
# Reading a range

On a database that does not change, the hits of a range are the candidates of
its source that can be loaded and pass the check, in the order of the source,
or those of them that the offset and the limit of the page leave.  So a query
by the index hands out the records that its search yields, and no record twice.
-/

namespace Database

/-- Pulled until it ends, a range hands out these hits. -/
inductive Reads {S Mark : Type} [Source S Mark] (database : Database) :
    Range S -> List (Hit Mark) -> Prop where
  | ended {range later : Range S} (pulled : database.pull range = (.ok none, later)) :
      Reads database range []
  | hit {range later : Range S} {hit : Hit Mark} {hits : List (Hit Mark)}
      (pulled : database.pull range = (.ok (some hit), later)) (reads : Reads database later hits) :
      Reads database range (hit :: hits)

/-- Pulled until it ends or fails, a range hands out these hits, and stops with
this error if it fails. -/
inductive ReadsUntil {S Mark : Type} [Source S Mark] (database : Database) :
    Range S -> List (Hit Mark) -> Option Error -> Prop where
  | ended {range later : Range S} (pulled : database.pull range = (.ok none, later)) :
      ReadsUntil database range [] none
  | failed {range later : Range S} {cause : Error}
      (pulled : database.pull range = (.error cause, later)) :
      ReadsUntil database range [] (some cause)
  | hit {range later : Range S} {hit : Hit Mark} {hits : List (Hit Mark)} {stop : Option Error}
      (pulled : database.pull range = (.ok (some hit), later))
      (reads : ReadsUntil database later hits stop) :
      ReadsUntil database range (hit :: hits) stop

end Database

namespace Page

/-- Every hit is handed out. -/
def IsWhole (page : Page) : Prop :=
  page.offset = 0 ∧ page.limit = none

/-- The hit that a candidate is, if it is one. -/
def hit? {Mark : Type} (page : Page) (store : Store) (candidate : Candidate Mark) :
    Option (Hit Mark) :=
  match store.records.get? candidate.id with
  | none => none
  | some record =>
      if page.admits record.value then
        some ⟨candidate.id, page.project record.value, record.version, candidate.mark⟩
      else none

/-- A candidate that is a hit is handed out unless it is to be passed over. -/
theorem load_eq {Mark : Type} (page : Page) (store : Store) (candidate : Candidate Mark) :
    page.load store candidate.id =
      match page.hit? store candidate with
      | none => (none, page)
      | some hit =>
          if 0 < page.offset then (none, { page with offset := page.offset - 1 })
          else (some (hit.value, hit.version),
            { page with limit := page.limit.map fun left => left - 1 }) := by
  unfold load hit?
  cases store.records.get? candidate.id with
  | none => rfl
  | some record =>
      dsimp only
      cases page.admits record.value with
      | true => rfl
      | false => rfl

/-- The hits that are handed out: some are passed over, and so many follow at
most as the limit says. -/
def cut {Mark : Type} (page : Page) (hits : List (Hit Mark)) : List (Hit Mark) :=
  match page.limit with
  | some limit => (hits.drop page.offset).take limit
  | none => hits.drop page.offset

theorem cut_of_isWhole {Mark : Type} {page : Page} (whole : page.IsWhole)
    (hits : List (Hit Mark)) : page.cut hits = hits := by
  unfold cut
  rw [whole.1, whole.2]
  rfl

theorem cut_sublist {Mark : Type} (page : Page) (hits : List (Hit Mark)) :
    (page.cut hits).Sublist hits := by
  unfold cut
  split
  · exact (List.take_sublist _ _).trans (List.drop_sublist _ _)
  · exact List.drop_sublist _ _

theorem cut_subset {Mark : Type} (page : Page) (hits : List (Hit Mark)) :
    page.cut hits ⊆ hits :=
  (page.cut_sublist hits).subset

theorem cut_nil {Mark : Type} (page : Page) : page.cut ([] : List (Hit Mark)) = [] :=
  List.eq_nil_of_subset_nil (page.cut_subset [])

theorem cut_of_isExhausted {Mark : Type} {page : Page} (exhausted : page.isExhausted = true)
    (hits : List (Hit Mark)) : page.cut hits = [] := by
  have noneLeft : page.limit = some 0 := eq_of_beq exhausted
  unfold cut
  rw [noneLeft]
  exact List.take_zero

theorem cut_passed {Mark : Type} {page : Page} (passes : 0 < page.offset) (hit : Hit Mark)
    (hits : List (Hit Mark)) :
    page.cut (hit :: hits) = cut { page with offset := page.offset - 1 } hits := by
  have dropped : (hit :: hits).drop page.offset = hits.drop (page.offset - 1) := by
    rcases Nat.exists_eq_add_of_lt passes with ⟨more, isOffset⟩
    rw [isOffset, Nat.zero_add]
    rfl
  unfold cut
  rw [dropped]

theorem cut_handed {Mark : Type} {page : Page} (more : page.isExhausted = false)
    (passed : page.offset = 0) (hit : Hit Mark) (hits : List (Hit Mark)) :
    page.cut (hit :: hits) =
      hit :: cut { page with limit := page.limit.map fun left => left - 1 } hits := by
  rcases page with ⟨valueMatch, select, offset, limit⟩
  cases passed
  cases limit with
  | none => rfl
  | some limit =>
      cases limit with
      | zero => cases more
      | succ limit => rfl

/-- Where the limit is reached, no failure is seen any more. -/
def stop {Mark : Type} (page : Page) (hits : List (Hit Mark)) (stop : Option Error) :
    Option Error :=
  if page.limit = some (page.cut hits).length then none else stop

theorem stop_none {Mark : Type} (page : Page) (hits : List (Hit Mark)) :
    page.stop hits none = none :=
  ite_self none

theorem stop_of_isWhole {Mark : Type} {page : Page} (whole : page.IsWhole)
    (hits : List (Hit Mark)) (stop : Option Error) : page.stop hits stop = stop := by
  simp [Page.stop, whole.2]

theorem stop_of_isExhausted {Mark : Type} {page : Page} (exhausted : page.isExhausted = true)
    (hits : List (Hit Mark)) (stop : Option Error) : page.stop hits stop = none := by
  unfold Page.stop
  rw [cut_of_isExhausted exhausted]
  exact if_pos (eq_of_beq exhausted)

/-- A range that has handed out all of its hits stops as its source does. -/
theorem stop_nil {Mark : Type} {page : Page} (more : page.isExhausted = false)
    (stop : Option Error) : page.stop ([] : List (Hit Mark)) stop = stop := by
  unfold Page.stop
  rw [cut_nil]
  exact if_neg fun noneLeft => Bool.false_ne_true (more.symm.trans (beq_iff_eq.mpr noneLeft))

theorem stop_passed {Mark : Type} {page : Page} (passes : 0 < page.offset) (hit : Hit Mark)
    (hits : List (Hit Mark)) (stop : Option Error) :
    page.stop (hit :: hits) stop =
      Page.stop { page with offset := page.offset - 1 } hits stop := by
  unfold Page.stop
  rw [cut_passed passes]

theorem stop_handed {Mark : Type} {page : Page} (more : page.isExhausted = false)
    (passed : page.offset = 0) (hit : Hit Mark) (hits : List (Hit Mark)) (stop : Option Error) :
    page.stop (hit :: hits) stop =
      Page.stop { page with limit := page.limit.map fun left => left - 1 } hits stop := by
  unfold Page.stop
  rw [cut_handed more passed, List.length_cons]
  rcases page with ⟨valueMatch, select, offset, limit⟩
  cases limit with
  | none => rfl
  | some limit =>
      cases limit with
      | zero => cases more
      | succ limit =>
          simp only [Option.map_some, Nat.add_sub_cancel, Option.some.injEq,
            Nat.add_right_cancel_iff]

theorem hit?_eq_some {Mark : Type} {page : Page} {store : Store} {candidate : Candidate Mark}
    {hit : Hit Mark} (isHit : page.hit? store candidate = some hit) :
    hit.key = candidate.id ∧ hit.mark = candidate.mark ∧
      ∃ record, store.records.get? candidate.id = some record ∧ page.admits record.value = true ∧
        hit.value = page.project record.value ∧ hit.version = record.version := by
  unfold hit? at isHit
  split at isHit
  · cases isHit
  · rename_i record isRecord
    split at isHit
    · rename_i admitted
      cases isHit
      exact ⟨rfl, rfl, record, isRecord, admitted, rfl, rfl⟩
    · cases isHit

theorem hit?_of_record {Mark : Type} {page : Page} {store : Store} {candidate : Candidate Mark}
    {record : StoredRecord} (isRecord : store.records.get? candidate.id = some record)
    (admitted : page.admits record.value = true) : page.hit? store candidate =
      some ⟨candidate.id, page.project record.value, record.version, candidate.mark⟩ := by
  unfold hit?
  rw [isRecord]
  exact if_pos admitted

/-- The hit shows the record as it is handed out. -/
def Shows {Mark : Type} (page : Page) (record : StoredRecord) (hit : Hit Mark) : Prop :=
  hit.value = page.project record.value ∧ hit.version = record.version

/-- A hit shows the record of a candidate, which passes the check. -/
theorem mem_hits_iff {Mark : Type} (page : Page) (store : Store)
    (candidates : List (Candidate Mark)) (hit : Hit Mark) :
    hit ∈ candidates.filterMap (page.hit? store) ↔ ⟨hit.key, hit.mark⟩ ∈ candidates ∧
      ∃ record, store.records.get? hit.key = some record ∧ page.admits record.value = true ∧
        page.Shows record hit := by
  constructor
  · intro isHit
    rcases List.mem_filterMap.mp isHit with ⟨candidate, isCandidate, isHit⟩
    rcases hit?_eq_some isHit with ⟨key, mark, record, isRecord, admitted, shows_⟩
    rw [key, mark]
    exact ⟨isCandidate, record, isRecord, admitted, shows_⟩
  · rintro ⟨isCandidate, record, isRecord, admitted, isValue, isVersion⟩
    refine List.mem_filterMap.mpr ⟨_, isCandidate, ?_⟩
    rw [hit?_of_record isRecord admitted, ← isValue, ← isVersion]

/-- The hits are the candidates with a record that passes the check. -/
theorem exists_hit_iff {Mark : Type} (page : Page) (store : Store)
    (candidates : List (Candidate Mark)) (key : String) (mark : Mark) :
    (∃ hit ∈ candidates.filterMap (page.hit? store), hit.key = key ∧ hit.mark = mark) ↔
      ⟨key, mark⟩ ∈ candidates ∧
        ∃ record, store.records.get? key = some record ∧ page.admits record.value = true := by
  constructor
  · rintro ⟨hit, isHit, rfl, rfl⟩
    rcases (mem_hits_iff page store candidates hit).mp isHit with
      ⟨isCandidate, record, isRecord, admitted, _⟩
    exact ⟨isCandidate, record, isRecord, admitted⟩
  · rintro ⟨isCandidate, record, isRecord, admitted⟩
    exact ⟨_, List.mem_filterMap.mpr ⟨_, isCandidate, hit?_of_record isRecord admitted⟩, rfl, rfl⟩

theorem mem_keys_iff {Mark : Type} (hits : List (Hit Mark)) (key : String) :
    key ∈ hits.map Hit.key ↔ ∃ mark, ∃ hit ∈ hits, hit.key = key ∧ hit.mark = mark := by
  rw [List.mem_map]
  constructor
  · rintro ⟨hit, isHit, isKey⟩
    exact ⟨hit.mark, hit, isHit, isKey, rfl⟩
  · rintro ⟨_, hit, isHit, isKey, _⟩
    exact ⟨hit, isHit, isKey⟩

theorem shows_of_mem {Mark : Type} (page : Page) (store : Store)
    (candidates : List (Candidate Mark)) :
    ∀ hit ∈ candidates.filterMap (page.hit? store),
      ∃ record, store.records.get? hit.key = some record ∧ page.Shows record hit := by
  intro hit isHit
  rcases (mem_hits_iff page store candidates hit).mp isHit with ⟨_, record, isRecord, _, shows_⟩
  exact ⟨record, isRecord, shows_⟩

/-- No key occurs twice among the hits if no candidate does. -/
theorem nodup_keys {Mark : Type} (page : Page) (store : Store) {candidates : List (Candidate Mark)}
    (nodup : (candidates.map Candidate.id).Nodup) :
    ((candidates.filterMap (page.hit? store)).map Hit.key).Nodup := by
  refine List.Nodup.sublist ?_ nodup
  induction candidates with
  | nil => exact List.Sublist.refl _
  | cons candidate rest ih =>
      have ih := ih (List.nodup_cons.mp nodup).2
      cases isHit : page.hit? store candidate with
      | none =>
          rw [List.filterMap_cons_none isHit]
          exact List.Sublist.cons _ ih
      | some hit =>
          rw [List.filterMap_cons_some isHit, List.map_cons, List.map_cons,
            (hit?_eq_some isHit).1]
          exact List.Sublist.cons_cons _ ih

end Page

/-! ## Candidates -/

namespace Source

variable {S T Mark : Type} [Source S Mark] [Source T Mark] {batch : Nat} {store : Store}

/-- Run until it ends or fails, a source yields these candidates. -/
inductive Runs {S Mark : Type} [Source S Mark] (batch : Nat) (store : Store) :
    S -> List (Candidate Mark) -> Option Error -> Prop where
  | yields {source after : S} {candidate : Candidate Mark} {rest : List (Candidate Mark)}
      {stop : Option Error} (isStep : step batch store source = (.yields candidate, after))
      (runs : Runs batch store after rest stop) : Runs batch store source (candidate :: rest) stop
  | continues {source after : S} {candidates : List (Candidate Mark)} {stop : Option Error}
      (isStep : step batch store source = (.continues, after))
      (runs : Runs batch store after candidates stop) : Runs batch store source candidates stop
  | fails {source after : S} {cause : Error}
      (isStep : step batch store source = (.fails cause, after)) :
      Runs batch store source [] (some cause)
  | ends {source after : S} (isStep : step batch store source = (.ends, after)) :
      Runs batch store source [] none

/-- On a store that does not change, every source ends or fails. -/
theorem exists_runs (batch : Nat) (store : Store) (source : S) :
    ∃ candidates stop, Runs batch store source candidates stop := by
  induction source using @drain.induct S Mark _ batch store with
  | case1 source candidate after isStep ih =>
      rcases ih with ⟨rest, stop, runs⟩
      exact ⟨candidate :: rest, stop, .yields isStep runs⟩
  | case2 source after isStep ih =>
      rcases ih with ⟨candidates, stop, runs⟩
      exact ⟨candidates, stop, .continues isStep runs⟩
  | case3 source cause after isStep => exact ⟨[], some cause, .fails isStep⟩
  | case4 source after isStep => exact ⟨[], none, .ends isStep⟩

/-- What is drained are the candidates of a run that does not fail. -/
theorem Runs.drain_eq {source : S} {candidates : List (Candidate Mark)} {stop : Option Error}
    (runs : Runs batch store source candidates stop) :
    drain batch store source = stop.elim (.ok candidates) .error := by
  induction runs with
  | @yields source after candidate rest stop isStep runs ih =>
      rw [Source.drain_eq isStep]
      dsimp only
      rw [ih]
      cases stop with
      | none => rfl
      | some cause => rfl
  | continues isStep runs ih =>
      rw [Source.drain_eq isStep]
      exact ih
  | fails isStep => exact Source.drain_eq isStep
  | ends isStep => exact Source.drain_eq isStep

theorem runs_of_drain {source : S} {candidates : List (Candidate Mark)}
    (drained : drain batch store source = .ok candidates) :
    Runs batch store source candidates none := by
  rcases exists_runs batch store source with ⟨candidates', stop, runs⟩
  have drained' := runs.drain_eq
  rw [drained] at drained'
  cases stop with
  | none =>
      cases drained'
      exact runs
  | some cause => cases drained'

/-- Sources that go the same steps yield the same candidates. -/
theorem Runs.map {f : S -> T} (commutes : forall {source progress after},
      step batch store source = (progress, after) ->
        step batch store (f source) = (progress, f after))
    {source : S} {candidates : List (Candidate Mark)} {stop : Option Error}
    (runs : Runs batch store source candidates stop) :
    Runs batch store (f source) candidates stop := by
  induction runs with
  | yields isStep runs ih => exact .yields (commutes isStep) ih
  | continues isStep runs ih => exact .continues (commutes isStep) ih
  | fails isStep => exact .fails (commutes isStep)
  | ends isStep => exact .ends (commutes isStep)

/-- Candidates that are read as they are pulled are those of the source. -/
theorem Runs.streaming {source : S} {candidates : List (Candidate Mark)} {stop : Option Error}
    (runs : Runs batch store source candidates stop) :
    Runs batch store (Candidates.streaming source : Candidates S Mark) candidates stop := by
  refine runs.map fun {source progress after} isStep => ?_
  change ((step batch store source).1, Candidates.streaming (step batch store source).2) = _
  rw [isStep]

theorem runs_listed (batch : Nat) (store : Store) (candidates : List (Candidate Mark)) :
    Runs batch store (Candidates.listed candidates : Candidates S Mark) candidates none := by
  induction candidates with
  | nil => exact .ends rfl
  | cons candidate rest ih => exact .yields rfl ih

theorem drain_streaming (batch : Nat) (store : Store) (source : S) :
    drain batch store (Candidates.streaming source : Candidates S Mark) =
      drain batch store source := by
  rcases exists_runs batch store source with ⟨candidates, stop, runs⟩
  rw [runs.drain_eq, runs.streaming.drain_eq]

theorem drain_listed (batch : Nat) (store : Store) (candidates : List (Candidate Mark)) :
    drain batch store (Candidates.listed candidates : Candidates S Mark) = .ok candidates :=
  (runs_listed batch store candidates).drain_eq

end Source

/-! ## Hits -/

namespace Database

variable {S Mark : Type} [Source S Mark] {database : Database}

theorem readsUntil_none_iff {range : Range S} {hits : List (Hit Mark)} :
    database.ReadsUntil range hits none ↔ database.Reads range hits := by
  constructor
  · intro reads
    generalize isNone : (none : Option Error) = stop at reads
    induction reads with
    | ended pulled => exact .ended pulled
    | failed pulled => cases isNone
    | hit pulled reads ih => exact .hit pulled (ih isNone)
  · intro reads
    induction reads with
    | ended pulled => exact .ended pulled
    | hit pulled reads ih => exact .hit pulled ih

/-- A range is read in one way only. -/
theorem ReadsUntil.unique {range : Range S} {first second : List (Hit Mark)}
    {stop stop' : Option Error} (reads : database.ReadsUntil range first stop)
    (reads' : database.ReadsUntil range second stop') : first = second ∧ stop = stop' := by
  induction reads generalizing second with
  | ended pulled =>
      cases reads' with
      | ended _ => exact ⟨rfl, rfl⟩
      | failed pulled' => cases pulled.symm.trans pulled'
      | hit pulled' _ => cases pulled.symm.trans pulled'
  | failed pulled =>
      cases reads' with
      | ended pulled' => cases pulled.symm.trans pulled'
      | failed pulled' =>
          cases pulled.symm.trans pulled'
          exact ⟨rfl, rfl⟩
      | hit pulled' _ => cases pulled.symm.trans pulled'
  | hit pulled reads ih =>
      cases reads' with
      | ended pulled' => cases pulled.symm.trans pulled'
      | failed pulled' => cases pulled.symm.trans pulled'
      | hit pulled' reads' =>
          cases pulled.symm.trans pulled'
          rcases ih reads' with ⟨rfl, same⟩
          exact ⟨rfl, same⟩

/-- The hits are what the next pull and the later ones say. -/
theorem ReadsUntil.of_pull_eq {range other : Range S} {hits : List (Hit Mark)}
    {stop : Option Error} (same : database.pull range = database.pull other)
    (reads : database.ReadsUntil other hits stop) : database.ReadsUntil range hits stop := by
  cases reads with
  | ended pulled => exact .ended (same.trans pulled)
  | failed pulled => exact .failed (same.trans pulled)
  | hit pulled reads => exact .hit (same.trans pulled) reads

/-- A pull goes as far as one step of the source, or further with what the step
left. -/
theorem pull_eq {page : Page} (more : page.isExhausted = false) {source after : S}
    {progress : Progress Mark}
    (isStep : Source.step database.config.scanBatch database.store source = (progress, after)) :
    database.pull ⟨source, page⟩ =
      match progress with
      | .yields candidate =>
          match page.load database.store candidate.id with
          | (some (value, version), page) =>
              (.ok (some ⟨candidate.id, value, version, candidate.mark⟩), ⟨after, page⟩)
          | (none, page) => database.pull ⟨after, page⟩
      | .continues => database.pull ⟨after, page⟩
      | .fails cause => (.error cause, ⟨after, page⟩)
      | .ends => (.ok none, ⟨after, page⟩) := by
  conv =>
    lhs
    unfold pull Range.next
  rw [if_neg (by rw [more]; exact Bool.false_ne_true)]
  split
  all_goals
    rename_i taken
    cases isStep.symm.trans taken
    rfl

/-- What is handed out has to be told only where the page is not exhausted. -/
theorem readsUntil_of_more {source : S} {page : Page} {hits : List (Hit Mark)}
    {stop : Option Error} (reads : page.isExhausted = false ->
      database.ReadsUntil ⟨source, page⟩ (page.cut hits) (page.stop hits stop)) :
    database.ReadsUntil ⟨source, page⟩ (page.cut hits) (page.stop hits stop) := by
  cases exhausted : page.isExhausted with
  | false => exact reads exhausted
  | true =>
      have pulled : database.pull ⟨source, page⟩ = (.ok none, ⟨source, page⟩) := by
        unfold pull Range.next
        rw [if_pos exhausted]
      rw [Page.cut_of_isExhausted exhausted, Page.stop_of_isExhausted exhausted]
      exact .ended pulled

/-- A range hands out its part of what its source yields, and fails where the
source does unless its limit is reached before. -/
theorem readsUntil_cut (page : Page) {source : S} {candidates : List (Candidate Mark)}
    {stop : Option Error}
    (runs : Source.Runs database.config.scanBatch database.store source candidates stop) :
    database.ReadsUntil ⟨source, page⟩
      (page.cut (candidates.filterMap (page.hit? database.store)))
      (page.stop (candidates.filterMap (page.hit? database.store)) stop) := by
  induction runs generalizing page with
  | @yields source after candidate rest stop isStep runs ih =>
      refine readsUntil_of_more fun more => ?_
      have pulled := pull_eq more isStep
      dsimp only at pulled
      rw [Page.load_eq] at pulled
      cases isHit : page.hit? database.store candidate with
      | none =>
          rw [isHit] at pulled
          rw [List.filterMap_cons_none isHit]
          exact (ih page).of_pull_eq pulled
      | some hit =>
          rw [isHit] at pulled
          dsimp only at pulled
          rw [List.filterMap_cons_some isHit]
          by_cases passes : 0 < page.offset
          · rw [if_pos passes] at pulled
            rw [Page.cut_passed passes, Page.stop_passed passes]
            exact (ih _).of_pull_eq pulled
          · have passed := Nat.eq_zero_of_not_pos passes
            have sameHit :
                (⟨candidate.id, hit.value, hit.version, candidate.mark⟩ : Hit Mark) = hit := by
              rcases Page.hit?_eq_some isHit with ⟨key, mark, _⟩
              rw [← key, ← mark]
            rw [if_neg passes] at pulled
            dsimp only at pulled
            rw [sameHit] at pulled
            rw [Page.cut_handed more passed, Page.stop_handed more passed]
            exact .hit pulled (ih _)
  | continues isStep runs ih =>
      exact readsUntil_of_more fun more => (ih page).of_pull_eq (pull_eq more isStep)
  | fails isStep =>
      refine readsUntil_of_more fun more => ?_
      rw [List.filterMap_nil, Page.cut_nil, Page.stop_nil more]
      exact .failed (pull_eq more isStep)
  | ends isStep =>
      refine readsUntil_of_more fun more => ?_
      rw [List.filterMap_nil, Page.cut_nil, Page.stop_none]
      exact .ended (pull_eq more isStep)

/-- A range without limits hands out what its source yields, and fails where the
source does. -/
theorem readsUntil_of_runs {page : Page} (whole : page.IsWhole) {source : S}
    {candidates : List (Candidate Mark)} {stop : Option Error}
    (runs : Source.Runs database.config.scanBatch database.store source candidates stop) :
    database.ReadsUntil ⟨source, page⟩ (candidates.filterMap (page.hit? database.store)) stop := by
  have reads := readsUntil_cut page runs
  rw [Page.cut_of_isWhole whole, Page.stop_of_isWhole whole] at reads
  exact reads

/-- A range hands out its part of what its source yields. -/
theorem reads_cut (page : Page) (source : S) {candidates : List (Candidate Mark)}
    (drained : Source.drain database.config.scanBatch database.store source = .ok candidates) :
    database.Reads ⟨source, page⟩
      (page.cut (candidates.filterMap (page.hit? database.store))) := by
  have reads := readsUntil_cut page (Source.runs_of_drain drained)
  rw [Page.stop_none] at reads
  exact readsUntil_none_iff.mp reads

/-- A range without limits hands out what its source yields. -/
theorem reads_of_drain {page : Page} (whole : page.IsWhole) (source : S)
    {candidates : List (Candidate Mark)}
    (drained : Source.drain database.config.scanBatch database.store source = .ok candidates) :
    database.Reads ⟨source, page⟩ (candidates.filterMap (page.hit? database.store)) := by
  have reads := reads_cut page source drained
  rw [Page.cut_of_isWhole whole] at reads
  exact reads

end Database

/-! ## Queries by the index -/

namespace Database

variable {database : Database}

/-- A query with valid options is the range of its search. -/
theorem findByIndex_eq {options : IndexOptions} (valid : options.validate = .ok ())
    (pattern : Pattern) (valueMatch : Option Pattern) (select : Option Projection) :
    database.findByIndex pattern valueMatch select options =
      IndexRange.ofMatches database.config.scanBatch database.store
        (database.search pattern options) options.sortable
        (indexPage pattern valueMatch select options) := by
  rw [findByIndex, valid]
  rfl

/-- A query hands out its part of the candidates of its search, in some order. -/
theorem findByIndex_of_drain (pattern : Pattern) {options : IndexOptions}
    (valid : options.validate = .ok ()) {found : List (Candidate Nat)}
    (drained : Source.drain database.config.scanBatch database.store
      (database.search pattern options) = .ok found)
    (valueMatch : Option Pattern) (select : Option Projection) :
    ∃ (range : IndexRange) (candidates : List (Candidate Nat)),
      database.findByIndex pattern valueMatch select options = .ok range ∧
      database.Reads range ((indexPage pattern valueMatch select options).cut
        (candidates.filterMap
          ((indexPage pattern valueMatch select options).hit? database.store))) ∧
      candidates.Perm found := by
  rw [findByIndex_eq valid]
  unfold IndexRange.ofMatches
  split
  · -- A ranked search is drained at once, and its candidates may be sorted.
    refine ⟨_, if options.sortable then sortByScore found else found,
      congrArg (Except.map _) drained, reads_cut _ _ (Source.drain_listed _ _ _), ?_⟩
    split
    · exact List.mergeSort_perm found _
    · exact .refl found
  · exact ⟨_, found, rfl, reads_cut _ _ ((Source.drain_streaming _ _ _).trans drained), .refl found⟩

/-- The candidates of a query come in some order, each of them once. -/
theorem findByIndex_spec (readsRows : 0 < database.config.scanBatch)
    (readable : TermScan.Readable database.store) (pattern : Pattern) {options : IndexOptions}
    (valid : options.validate = .ok ())
    (someTerm : database.queryTerms pattern options.typeName ≠ [])
    (allHits : options.offset = 0 ∧ options.limit = none) (valueMatch : Option Pattern)
    (select : Option Projection) :
    ∃ (range : IndexRange) (candidates : List (Candidate Nat)),
      database.findByIndex pattern valueMatch select options = .ok range ∧
      database.Reads range (candidates.filterMap
        ((indexPage pattern valueMatch select options).hit? database.store)) ∧
      (candidates.map Candidate.id).Nodup ∧
      forall candidate, candidate ∈ candidates ↔
        (database.search pattern options).Deserves database.store candidate := by
  have whole : (indexPage pattern valueMatch select options).IsWhole := allHits
  rcases IndexMatches.drain_forTerms readsRows readable someTerm options
    database.config.tokenizer?.isSome with ⟨found, drained, nodup, deserves⟩
  rcases findByIndex_of_drain pattern valid drained valueMatch select with
    ⟨range, candidates, opened, reads, perm⟩
  rw [Page.cut_of_isWhole whole] at reads
  exact ⟨range, candidates, opened, reads, (perm.map Candidate.id).nodup_iff.mpr nodup,
    fun candidate => perm.mem_iff.trans (deserves candidate)⟩

end Database

end RecordIndex
