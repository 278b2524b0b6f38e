import RecordIndex.Proofs.Database.Ranked
import RecordIndex.Proofs.Query.Raising
import RecordIndex.Proofs.Query.Sorting

namespace RecordIndex

/-!
# Thresholds

A query may require a score of its hits, by itself or by the part of its terms that a
full-text match has to share.  Of two queries that ask for the same, the one that
requires more hands out the hits of the other one whose scores are high enough, in the
same order.
-/

/-- Options that ask for the same hits, all of them, up to the required score. -/
structure IndexOptions.IsAlike (options stricter : IndexOptions) : Prop where
  typeName : stricter.typeName = options.typeName
  sortable : stricter.sortable = options.sortable
  ranked : stricter.isRanked = options.isRanked
  scanFallback : stricter.scanFallback = options.scanFallback
  allHits : options.offset = 0 ∧ options.limit = none
  allHits' : stricter.offset = 0 ∧ stricter.limit = none

theorem IndexMatches.isRaised_forTerms {options stricter : IndexOptions}
    (alike : options.IsAlike stricter) {terms : List QueryTerm}
    (raises : options.requiredScore terms.length ≤ stricter.requiredScore terms.length)
    (tokenized : Bool) :
    IsRaised (stricter.requiredScore terms.length) (forTerms terms options tokenized)
      (forTerms terms stricter tokenized) := by
  refine ⟨raises, [], List.Subset.refl _, ?_⟩
  simp [forTerms, raise, alike.typeName, alike.ranked, alike.scanFallback]

/-- The hits have the scores of their candidates. -/
theorem Page.filterMap_hit?_filter (page : Page) (store : Store) (threshold : Nat)
    (candidates : List (Candidate Nat)) :
    (candidates.filter fun candidate => decide (threshold ≤ candidate.mark)).filterMap
        (page.hit? store) =
      (candidates.filterMap (page.hit? store)).filter fun hit => decide (threshold ≤ hit.mark) := by
  rw [List.filterMap_filter, List.filter_filterMap]
  congr 1
  funext candidate
  cases isHit : page.hit? store candidate with
  | none => simp
  | some hit =>
      have sameMark := (Page.hit?_eq_some isHit).2.1
      by_cases enough : threshold ≤ candidate.mark <;> simp [Option.filter, sameMark, enough]

namespace Database

variable {database : Database}

/-- Of two queries the other one hands out the hits of the first whose scores are high
enough, in the same order, or both fail alike. -/
def Filters (database : Database) (threshold : Nat) :
    Except Error IndexRange -> Except Error IndexRange -> Prop
  | .ok range, .ok range' => ∃ hits stop, database.ReadsUntil range hits stop ∧
      database.ReadsUntil range' (hits.filter fun hit => decide (threshold ≤ hit.mark)) stop
  | .error cause, .error cause' => cause' = cause
  | _, _ => False

/-- The hits of a search with a higher required score. -/
theorem filters_ofMatches {threshold : Nat} {search raised : IndexMatches}
    (isRaised : IndexMatches.IsRaised threshold search raised)
    (settled : search.done = false -> search.Settled) {page : Page} (whole : page.IsWhole)
    (sortable : Bool) :
    database.Filters threshold
      (IndexRange.ofMatches database.config.scanBatch database.store search sortable page)
      (IndexRange.ofMatches database.config.scanBatch database.store raised sortable page) := by
  rcases Source.exists_runs database.config.scanBatch database.store search with
    ⟨candidates, stop, runs⟩
  have runs' := isRaised.runs settled runs
  have ranked : raised.ranked = search.ranked := by
    rcases isRaised with ⟨_, _, _, rfl⟩
    rfl
  have filters {source source' : Candidates IndexMatches Nat}
      {candidates : List (Candidate Nat)} {stop : Option Error}
      (runs : Source.Runs database.config.scanBatch database.store source candidates stop)
      (runs' : Source.Runs database.config.scanBatch database.store source'
        (candidates.filter fun candidate => decide (threshold ≤ candidate.mark)) stop) :
      database.Filters threshold (.ok ⟨source, page⟩) (.ok ⟨source', page⟩) := by
    have reads' := readsUntil_of_runs whole runs'
    rw [Page.filterMap_hit?_filter] at reads'
    exact ⟨_, stop, readsUntil_of_runs whole runs, reads'⟩
  rw [IndexRange.ofMatches, IndexRange.ofMatches, ranked]
  cases search.ranked with
  | false => exact filters runs.streaming runs'.streaming
  | true =>
      rw [if_pos rfl, if_pos rfl, runs.drain_eq, runs'.drain_eq]
      cases stop with
      | some cause => exact rfl
      | none =>
          cases sortable with
          | false => exact filters (Source.runs_listed _ _ _) (Source.runs_listed _ _ _)
          | true =>
              refine filters (Source.runs_listed _ _ (sortByScore candidates)) ?_
              rw [← sortByScore_filter]
              exact Source.runs_listed _ _ _

/-- Raising the required score keeps the hits whose scores are high enough, in their
order. -/
theorem raised_score_filters {options stricter : IndexOptions} (alike : options.IsAlike stricter)
    (valid : options.validate = .ok ()) (valid' : stricter.validate = .ok ()) {pattern : Pattern}
    (raises : options.requiredScore (database.queryTerms pattern options.typeName).length ≤
      stricter.requiredScore (database.queryTerms pattern options.typeName).length)
    (valueMatch : Option Pattern) (select : Option Projection) :
    database.Filters
      (stricter.requiredScore (database.queryTerms pattern options.typeName).length)
      (database.findByIndex pattern valueMatch select options)
      (database.findByIndex pattern valueMatch select stricter) := by
  have samePage : indexPage pattern valueMatch select stricter =
      indexPage pattern valueMatch select options := by
    simp [indexPage, alike.ranked, alike.allHits, alike.allHits']
  have isRaised := IndexMatches.isRaised_forTerms alike raises database.config.tokenizer?.isSome
  have whole : (indexPage pattern valueMatch select options).IsWhole := alike.allHits
  rw [findByIndex_eq valid, findByIndex_eq valid', samePage, alike.sortable]
  have isSearch : database.search pattern stricter =
      .forTerms (database.queryTerms pattern options.typeName) stricter
        database.config.tokenizer?.isSome := by
    rw [search, alike.typeName]
  rw [isSearch]
  exact filters_ofMatches isRaised (fun _ => nofun) whole options.sortable

/-- People who share some of the terms. -/
def someShared : IndexOptions :=
  { typeName := some "P", fullText := some .any }

/-- People who share all of the terms. -/
def allShared : IndexOptions :=
  { typeName := some "P", fullText := some (.threshold .one) }

/-- Someone who is only of the name is found for some of the terms, and not for all of
them. -/
theorem raised_score_filters_john :
    someShared.IsAlike allShared ∧ someShared.validate = .ok () ∧ allShared.validate = .ok () ∧
    someShared.requiredScore
        ((blank.after firstPut).queryTerms (.nested johnFromHere) (some "P")).length ≤
      allShared.requiredScore
        ((blank.after firstPut).queryTerms (.nested johnFromHere) (some "P")).length ∧
    ∃ range range' hits,
      (blank.after firstPut).findByIndex (.nested johnFromHere) none none someShared =
        .ok range ∧
      (blank.after firstPut).findByIndex (.nested johnFromHere) none none allShared =
        .ok range' ∧
      (blank.after firstPut).Reads range hits ∧
      (blank.after firstPut).Reads range' (hits.filter fun hit => decide (2 ≤ hit.mark)) ∧
      "P@1" ∈ hits.map Hit.key ∧
      "P@1" ∉ (hits.filter fun hit => decide (2 ≤ hit.mark)).map Hit.key := by
  have alike : someShared.IsAlike allShared := ⟨rfl, rfl, rfl, rfl, ⟨rfl, rfl⟩, ⟨rfl, rfl⟩⟩
  have raises : someShared.requiredScore
      ((blank.after firstPut).queryTerms (.nested johnFromHere) (some "P")).length ≤
        allShared.requiredScore
          ((blank.after firstPut).queryTerms (.nested johnFromHere) (some "P")).length :=
    Nat.zero_le _
  have isTwo : allShared.requiredScore
      ((blank.after firstPut).queryTerms (.nested johnFromHere) (some "P")).length = 2 := by
    rw [queryTerms_johnFromHere]
    rfl
  have someTerm :
      (blank.after firstPut).queryTerms (.nested johnFromHere) someShared.typeName ≠ [] := by
    rw [someShared, queryTerms_johnFromHere]
    exact List.cons_ne_nil _ _
  rcases ranked_query_yields_runs (orderly_of_reachable reachable_after_firstPut)
    indexesHold_after_firstPut arePlain_johnFromHere (rfl : someShared.typeName = some "P") rfl rfl
    ⟨rfl, rfl⟩ someTerm none with ⟨range, hits, opened, reads, _, yields⟩
  have isRun : (blank.after firstPut).heldRun john
      ((blank.after firstPut).queryTerms (.nested johnFromHere) (some "P")) = 1 := by
    rw [queryTerms_johnFromHere]
    simp [heldRun, holdsTerm_john, not_holdsTerm_here]
  have isFound := yields "P@1" john (record_after_firstPut_iff.mpr ⟨rfl, rfl⟩) rfl
  have filters := raised_score_filters alike rfl rfl raises none none
  rw [opened] at filters
  cases opened' : (blank.after firstPut).findByIndex (.nested johnFromHere) none none allShared with
  | error cause =>
      rw [opened'] at filters
      exact filters.elim
  | ok range' =>
      rw [opened'] at filters
      rcases filters with ⟨hits', stop, loose, strict⟩
      rcases loose.unique (readsUntil_none_iff.mpr reads) with ⟨rfl, rfl⟩
      have strict := readsUntil_none_iff.mp strict
      refine ⟨alike, rfl, rfl, raises, range, range', hits', opened, rfl, reads, isTwo ▸ strict,
        ?_, ?_⟩
      · rcases (isFound 1).mpr ⟨isRun.symm, Nat.le_refl _⟩ with ⟨hit, isHit, isKey, _⟩
        exact List.mem_map.mpr ⟨hit, isHit, isKey⟩
      · intro member
        rcases List.mem_map.mp member with ⟨hit, kept, isKey⟩
        rcases List.mem_filter.mp kept with ⟨isHit, enough⟩
        have isOne := ((isFound hit.mark).mp ⟨hit, isHit, isKey, rfl⟩).1.trans isRun
        rw [isOne] at enough
        cases enough

end Database

end RecordIndex
