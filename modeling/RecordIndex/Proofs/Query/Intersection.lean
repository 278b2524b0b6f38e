import RecordIndex.Proofs.Query.Answering
import RecordIndex.Proofs.Query.Hits
import RecordIndex.Proofs.Query.Sorting

namespace RecordIndex

/-!
# Searches as intersections

What a search computes can be said without its phases and counts.  Each term has
the records that its scan finds.  A strict search yields the intersection of
these, and a ranked one scores a record by the longest row of terms, from the
first one on, that all find it.
-/

namespace IndexMatches

variable {batch : Nat} {store : Store} {search after : IndexMatches} {progress : Progress Nat}

/-! ## The place among the terms -/

/-- The search comes to a state by steps, whatever store each of them reads. -/
inductive ComesTo (start : IndexMatches) : IndexMatches -> Prop where
  | here : ComesTo start start
  | step {search after : IndexMatches} {batch : Nat} {store : Store} {progress : Progress Nat}
      (comes : ComesTo start search) (isStep : search.step batch store = (progress, after)) :
      ComesTo start after

/-- The search is done, or its phase is the place of a term. -/
def IsPlaced (search : IndexMatches) : Prop :=
  search.done = true ∨ search.phase < search.terms.length

theorem isPlaced_endPhase (search : IndexMatches) :
    search.endPhase.terms = search.terms ∧ search.endPhase.IsPlaced := by
  have place := place_dropFallen search
  refine ⟨place.1, ?_⟩
  unfold IsPlaced endPhase
  dsimp only
  by_cases last : search.dropFallen.terms.length ≤ search.dropFallen.phase + 1
  · exact .inl (by rw [decide_eq_true last, Bool.true_or])
  · exact .inr (Nat.lt_of_not_le last)

theorem isPlaced_stepScan {scan : TermScan} (isPlaced : search.IsPlaced)
    (isStep : search.stepScan batch store scan = (progress, after)) :
    after.terms = search.terms ∧ after.IsPlaced := by
  unfold stepScan at isStep
  split at isStep
  · rename_i id later _
    cases isStep
    rcases reading_credit { search with scan := some later } id with ⟨terms, phase, done, _, _⟩
    unfold IsPlaced
    rw [terms, phase, done]
    exact ⟨rfl, isPlaced⟩
  · cases isStep
    exact ⟨rfl, isPlaced⟩
  · cases isStep
    exact isPlaced_endPhase search
  · cases isStep
    exact ⟨rfl, .inl rfl⟩

theorem isPlaced_step (isPlaced : search.IsPlaced)
    (isStep : search.step batch store = (progress, after)) :
    after.terms = search.terms ∧ after.IsPlaced := by
  unfold step at isStep
  split at isStep
  · cases isStep
    exact ⟨rfl, isPlaced⟩
  · split at isStep
    · cases isStep
      exact ⟨rfl, isPlaced⟩
    · split at isStep
      · unfold stepFallback at isStep
        split at isStep
        · dsimp only at isStep
          split at isStep
          all_goals
            cases isStep
            exact ⟨rfl, isPlaced⟩
        · cases isStep
          exact ⟨rfl, .inl rfl⟩
      · exact isPlaced_stepScan isPlaced isStep
      · split at isStep
        · cases isStep
          exact ⟨rfl, isPlaced⟩
        · cases isStep
          exact ⟨rfl, .inl rfl⟩

/-- The phase never leaves the list of terms, and the terms stay the same. -/
theorem ComesTo.isPlaced {start : IndexMatches} (comes : start.ComesTo search)
    (isPlaced : start.IsPlaced) : search.terms = start.terms ∧ search.IsPlaced := by
  induction comes with
  | here => exact ⟨rfl, isPlaced⟩
  | step comes isStep ih =>
      rcases isPlaced_step ih.2 isStep with ⟨terms, isPlaced⟩
      exact ⟨terms.trans ih.1, isPlaced⟩

/-! ## Intersections -/

/-- The record is found by the scans of the first so many terms. -/
def FoundByFirst (batch : Nat) (store : Store) (search : IndexMatches) (count : Nat)
    (id : String) : Prop :=
  ∀ term ∈ search.terms.take count,
    id ∈ ((TermScan.forTerm term search.tokenized).outcome batch store search.typeName).found

/-- The score that a record is to have.  All terms find what a strict search
yields.  The first term finds what a ranked search yields, and the score is the
largest number of terms in front that all find it. -/
def Scores (batch : Nat) (store : Store) (search : IndexMatches) (id : String) (score : Nat) :
    Prop :=
  if search.ranked then
    search.FoundByFirst batch store 1 id ∧ score ≤ search.terms.length ∧
      search.FoundByFirst batch store score id ∧
        ∀ count ≤ search.terms.length, search.FoundByFirst batch store count id -> count ≤ score
  else score = search.terms.length ∧ search.FoundByFirst batch store search.terms.length id

theorem le_leading_iff (positive : 0 < batch) {count : Nat} (enough : count ≤ search.terms.length)
    (id : String) :
    count ≤ search.leading store id ↔ search.FoundByFirst batch store count id := by
  unfold leading FoundByFirst
  rw [le_length_takeWhile_iff enough]
  simp only [TermScan.found_outcome_forTerm positive, List.contains_iff_mem]

theorem isReached_iff (positive : 0 < batch) {place : Nat} (inPlace : place ≤ search.terms.length) :
    search.IsReached store place ↔ ∃ id, search.FoundByFirst batch store place id :=
  exists_congr fun id => le_leading_iff positive inPlace id

/-- What deserves to be yielded has the score that it is to have. -/
theorem deserves_iff (positive : 0 < batch) (nonempty : search.terms ≠ []) (id : String)
    (score : Nat) : search.Deserves store ⟨id, score⟩ ↔
      search.minScore ≤ score ∧ search.Scores batch store id score := by
  have atMost := search.leading_le store id
  have someTerm : 1 ≤ search.terms.length := List.length_pos_iff.mpr nonempty
  have run := (le_leading_iff positive atMost id).mp (Nat.le_refl _)
  unfold Deserves Scores
  dsimp only
  split
  · rename_i ranked
    rw [← le_leading_iff positive someTerm]
    constructor
    · rintro ⟨rfl, isFound, enough, _⟩
      exact ⟨enough, isFound, atMost, run,
        fun count inPlace found => (le_leading_iff positive inPlace id).mpr found⟩
    · rintro ⟨enough, isFound, inPlace, found, largest⟩
      have same : score = search.leading store id :=
        Nat.le_antisymm ((le_leading_iff positive inPlace id).mpr found)
          (largest _ atMost run)
      exact ⟨same, same ▸ isFound, enough, .inl ranked⟩
  · rename_i notRanked
    rw [← le_leading_iff positive (Nat.le_refl _)]
    constructor
    · rintro ⟨isRun, _, enough, ranked | whole⟩
      · exact absurd ranked notRanked
      · exact ⟨enough, whole, Nat.le_of_eq (whole.symm.trans isRun)⟩
    · rintro ⟨enough, rfl, found⟩
      exact ⟨Nat.le_antisymm found atMost, someTerm, enough, .inr rfl⟩

end IndexMatches

/-! ## The order of hits -/

/-- The hits come by descending scores, and those of one score in the order in
which they were matched. -/
def InScoreOrder (matched : List (Candidate Nat)) (hits : List (Hit Nat)) : Prop :=
  hits.Pairwise fun hit later => later.mark < hit.mark ∨ later.mark = hit.mark ∧
    [⟨hit.key, hit.mark⟩, ⟨later.key, later.mark⟩].Sublist matched

/-- The hits of a sorted list come in the order of their scores. -/
theorem inScoreOrder_of_sorted (page : Page) (store : Store) (candidates : List (Candidate Nat)) :
    InScoreOrder candidates
      (page.cut ((sortByScore candidates).filterMap (page.hit? store))) := by
  refine List.Pairwise.sublist (page.cut_sublist _) ?_
  refine (sortByScore_pairwise candidates).filterMap _ ?_
  intro candidate later ordered hit isHit hit' isHit'
  rcases Page.hit?_eq_some isHit with ⟨key, mark, _⟩
  rcases Page.hit?_eq_some isHit' with ⟨key', mark', _⟩
  rw [key, mark, key', mark']
  exact ordered

namespace Database

variable {database : Database}

/-- A search that comes to its end opens a range of its candidates, in the order
of their scores if the range is to be sorted and in the order in which they were
matched if not. -/
theorem reads_ofMatches {search : IndexMatches} {candidates : List (Candidate Nat)}
    (drained : Source.drain database.config.scanBatch database.store search = .ok candidates)
    {sortable : Bool} (isRanked : sortable = true -> search.ranked = true) (page : Page) :
    ∃ range sorted, IndexRange.ofMatches database.config.scanBatch database.store search sortable
        page = .ok range ∧ sorted.Perm candidates ∧
      database.Reads range (page.cut (sorted.filterMap (page.hit? database.store))) ∧
        if sortable then
          InScoreOrder candidates (page.cut (sorted.filterMap (page.hit? database.store)))
        else sorted = candidates := by
  unfold IndexRange.ofMatches
  cases ranked : search.ranked with
  | true =>
      rw [if_pos rfl, drained]
      refine ⟨_, if sortable then sortByScore candidates else candidates, rfl, ?_,
        reads_cut _ _ (Source.drain_listed _ _ _), ?_⟩
      · split
        · exact List.mergeSort_perm candidates _
        · exact .refl candidates
      · split
        · exact inScoreOrder_of_sorted page database.store candidates
        · rfl
  | false =>
      have notSortable : sortable = false :=
        Bool.eq_false_iff.mpr fun sorts => Bool.false_ne_true (ranked.symm.trans (isRanked sorts))
      rw [if_neg Bool.false_ne_true, notSortable]
      exact ⟨_, candidates, rfl, .refl candidates,
        reads_cut _ _ ((Source.drain_streaming _ _ _).trans drained), rfl⟩

/-- A search yields the intersection of what its terms find, each record once and
with its score, and the early end of a search loses none.  It fails only if the
scan of a term does that some record is left for.  Its phase never leaves the
list of terms, and a range that is sorted hands out the best scores first. -/
theorem search_intersects (readsRows : 0 < database.config.scanBatch) {terms : List QueryTerm}
    (nonempty : terms ≠ []) (options : IndexOptions) (tokenized : Bool) :
    let batch := database.config.scanBatch
    let store := database.store
    let search := IndexMatches.forTerms terms options tokenized
    (forall after, search.ComesTo after -> after.terms = terms ∧ after.IsPlaced) ∧
    match Source.drain batch store search with
    | .error cause => ∃ place term id, terms[place]? = some term ∧
        search.FoundByFirst batch store place id ∧ search.failure batch store term = some cause
    | .ok candidates =>
        (forall place term id, terms[place]? = some term ->
          search.FoundByFirst batch store place id ->
            search.failure batch store term = none) ∧
        (candidates.map Candidate.id).Nodup ∧
        (forall id score, ⟨id, score⟩ ∈ candidates ↔
          options.requiredScore terms.length ≤ score ∧ search.Scores batch store id score) ∧
        forall page, ∃ range sorted,
          IndexRange.ofMatches batch store search options.sortable page = .ok range ∧
          sorted.Perm candidates ∧
          database.Reads range (page.cut (sorted.filterMap (page.hit? store))) ∧
          if options.sortable then
            InScoreOrder candidates (page.cut (sorted.filterMap (page.hit? store)))
          else sorted = candidates := by
  intro batch store search
  have someTerm : 0 < terms.length := List.length_pos_iff.mpr nonempty
  refine ⟨fun after comes => comes.isPlaced (.inr someTerm), ?_⟩
  have spec := IndexMatches.drain_forTerms_spec readsRows store nonempty options tokenized
  have inPlace {place : Nat} {term : QueryTerm} (isTerm : terms[place]? = some term) :
      place ≤ terms.length :=
    Nat.le_of_lt (List.getElem?_eq_some_iff.mp isTerm).1
  cases drained : Source.drain batch store search with
  | error cause =>
      rw [drained] at spec
      rcases spec with ⟨place, term, isTerm, reached, fails⟩
      rcases (IndexMatches.isReached_iff readsRows (inPlace isTerm)).mp reached with ⟨id, found⟩
      exact ⟨place, term, id, isTerm, found, fails⟩
  | ok candidates =>
      rw [drained] at spec
      rcases spec with ⟨unfailing, nodup, deserves⟩
      refine ⟨?_, nodup, fun id score => (deserves _).trans ?_, fun page => ?_⟩
      · intro place term id isTerm found
        exact unfailing place term isTerm
          ((IndexMatches.isReached_iff readsRows (inPlace isTerm)).mpr ⟨id, found⟩)
      · exact IndexMatches.deserves_iff readsRows nonempty id score
      · refine reads_ofMatches drained (fun sorts => ?_) page
        exact Bool.or_eq_true_iff.mpr (.inl sorts)

/-! ## A search for the first record -/

/-- To look for someone of one name. -/
def johnTerm : QueryTerm :=
  ⟨[.name "name"], .exact (.text "john")⟩

theorem mem_finds_johnTerm (id : String) :
    id ∈ TermScan.finds (blank.after firstPut).store (some "P") false johnTerm ↔ id = "P@1" := by
  constructor
  · intro found
    rcases held_of_mem_finds indexesHold_after_firstPut found with ⟨record, isRecord, _⟩
    exact (record_after_firstPut_iff.mp isRecord).1
  · rintro rfl
    have isHeld : ⟨["name"], .text "john"⟩ ∈ (blank.after firstPut).derivedTerms john := by
      rw [derivedTerms_john]
      exact .tail _ (.head _)
    have answers : (Deriver.mk none none).Answers johnTerm ⟨["name"], .text "john"⟩ :=
      .exact ["name"] rfl
    have noTokens : (blank.after firstPut).config.tokenizer? = none := by
      rw [config_after_firstPut]
      rfl
    have isTyped : TermScan.hasType (some "P") "P@1" = true :=
      (Store.isPrefixOf_iff _ _).mpr ⟨['1'], rfl⟩
    have found := mem_finds_of_answers (orderly_of_reachable reachable_after_firstPut)
      indexesHold_after_firstPut noTokens.symm found_firstPut isHeld answers isTyped
    rw [noTokens] at found
    exact found

/-- To look for someone in one place. -/
def hereTerm : QueryTerm :=
  ⟨[.name "place"], .exact (.text "here")⟩

theorem not_mem_finds_hereTerm (id : String) :
    id ∉ TermScan.finds (blank.after firstPut).store (some "P") false hereTerm := by
  intro found
  rcases held_of_mem_finds indexesHold_after_firstPut found with
    ⟨record, isRecord, held, member, accepts, _⟩
  rw [(record_after_firstPut_iff.mp isRecord).2, derivedTerms_john] at member
  rcases List.mem_cons.mp member with rfl | member
  · cases accepts
  · cases List.mem_singleton.mp member
    cases accepts

/-- A ranked search for a name and a place yields the person of the name, who is
in no place, with the score of the name alone. -/
theorem search_intersects_john :
    let batch := (blank.after firstPut).config.scanBatch
    let store := (blank.after firstPut).store
    let options : IndexOptions := { typeName := some "P", fullText := some .any }
    let search := IndexMatches.forTerms [johnTerm, hereTerm] options false
    ∃ candidates, Source.drain batch store search = .ok candidates ∧
      forall id score, ⟨id, score⟩ ∈ candidates ↔ id = "P@1" ∧ score = 1 := by
  intro batch store options search
  have readsRows := (orderly_of_reachable reachable_after_firstPut).readsRows
  have intersects := (search_intersects readsRows (List.cons_ne_nil johnTerm [hereTerm]) options
    false).2
  have byName (id : String) : search.FoundByFirst batch store 1 id ↔ id = "P@1" := by
    unfold IndexMatches.FoundByFirst
    rw [← mem_finds_johnTerm, ← TermScan.found_outcome_forTerm readsRows]
    exact List.forall_mem_singleton
  have notByBoth (id : String) : ¬ search.FoundByFirst batch store 2 id := by
    intro found
    have isFound := found hereTerm (.tail _ (.head _))
    rw [TermScan.found_outcome_forTerm readsRows] at isFound
    exact not_mem_finds_hereTerm id isFound
  cases drained : Source.drain batch store search with
  | error cause =>
      rw [drained] at intersects
      rcases intersects with ⟨_, term, _, _, _, fails⟩
      have unfailing := (TermScan.outcome_spec (some "P") readsRows
        (TermScan.sound_forTerm store term false)).2
          (readable_of_indexesHold indexesHold_after_firstPut)
      cases unfailing.symm.trans fails
  | ok candidates =>
      rw [drained] at intersects
      refine ⟨candidates, rfl, fun id score => (intersects.2.2.1 id score).trans ?_⟩
      constructor
      · rintro ⟨_, isFirst, atMost, found, isLargest⟩
        have atLeast := isLargest 1 (by decide) isFirst
        have notBoth : score ≠ 2 := fun both => notByBoth id (both ▸ found)
        refine ⟨(byName id).mp isFirst, ?_⟩
        have atMost : score ≤ 2 := atMost
        omega
      · rintro ⟨isJohn, rfl⟩
        have isFirst := (byName id).mpr isJohn
        refine ⟨by decide, isFirst, by decide, isFirst, fun count atMost found => ?_⟩
        have notBoth : count ≠ 2 := fun both => notByBoth id (both ▸ found)
        have atMost : count ≤ 2 := atMost
        omega

end Database

end RecordIndex
