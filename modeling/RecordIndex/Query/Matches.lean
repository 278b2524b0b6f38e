import RecordIndex.Query.Options
import RecordIndex.Query.Source
import RecordIndex.Query.TermScan

namespace RecordIndex

/-!
# Matching terms

The terms of a query are scanned one after another, and each term is a phase.
The first phase counts every record that it finds.  A later phase counts a
record only if it was counted in every phase before, so candidates only get
fewer, and the search ends early when none are left.

A strict search yields a record when the last phase counts it.  A ranked
search also yields, at the end of each phase, the records that fall out there,
with the number of phases that counted them as their score.

A query without any term yields nothing, or every record of its type with
score zero if it falls back to reading the records.
-/

/-- A search in progress. -/
structure IndexMatches where
  terms : List QueryTerm
  typeName : Option String
  ranked : Bool
  minScore : Nat
  tokenized : Bool
  /-- The place of the term that is being scanned. -/
  phase : Nat
  /-- The scan of this phase, once it is open. -/
  scan : Option TermScan
  /-- The records that were found in this phase. -/
  credited : List String
  /-- How many phases counted each candidate. -/
  counts : Table String Nat
  yielded : List String
  /-- Matches that wait to be yielded. -/
  pending : List (Candidate Nat)
  /-- The read of all records, for a query without terms. -/
  fallback : Option (Scan String StoredRecord)
  done : Bool

namespace IndexMatches

/-- The search for some terms, before its first step. -/
def forTerms (terms : List QueryTerm) (options : IndexOptions) (tokenized : Bool) :
    IndexMatches :=
  let (start, stop) := Store.keyRange options.typeName
  let fallsBack := terms.isEmpty && options.scanFallback
  { terms
    typeName := options.typeName
    ranked := options.isRanked
    minScore := options.requiredScore terms.length
    tokenized
    phase := 0
    scan := none
    credited := []
    counts := .empty
    yielded := []
    pending := []
    fallback := if fallsBack then some (.ofBounds start stop) else none
    done := terms.isEmpty && !fallsBack }

/-! ## Counting -/

/-- Yield a record, unless its score is too low or it was yielded before. -/
def emit (search : IndexMatches) (id : String) (score : Nat) : IndexMatches :=
  if search.minScore ≤ score && !search.yielded.contains id then
    { search with
      yielded := id :: search.yielded
      pending := search.pending ++ [⟨id, score⟩] }
  else search

/-- The record was counted in every phase before this one. -/
def isCandidate (search : IndexMatches) (id : String) : Bool :=
  search.phase == 0 || search.counts.get? id == some search.phase

/-- Count a record that was found in this phase.  Only the first time in a
phase counts. -/
def credit (search : IndexMatches) (id : String) : IndexMatches :=
  if search.credited.contains id then search
  else
    let search := { search with credited := id :: search.credited }
    if search.isCandidate id then
      let score := search.phase + 1
      let search := { search with counts := search.counts.insert id score }
      if score = search.terms.length then search.emit id score else search
    else search

/-- The records that this phase did not count, in order. -/
def fallenOut (search : IndexMatches) : List (String × Nat) :=
  search.counts.rows.filter fun row => decide (row.2 ≤ search.phase)

/-- Drop the records that fell out, and yield them if the search is ranked. -/
def dropFallen (search : IndexMatches) : IndexMatches :=
  let fallen := search.fallenOut
  let search := { search with counts := search.counts.eraseAll (fallen.map Prod.fst) }
  if search.ranked then fallen.foldl (fun search row => search.emit row.1 row.2) search
  else search

/-- Go on to the next term.  The search is done behind the last one, or when
no candidate is left. -/
def endPhase (search : IndexMatches) : IndexMatches :=
  let search := search.dropFallen
  let phase := search.phase + 1
  { search with
    scan := none
    credited := []
    phase
    done := decide (search.terms.length ≤ phase) || search.counts.isEmpty }

/-! ## Stepping -/

/-- One step of the scan of a phase. -/
def stepScan (batch : Nat) (store : Store) (search : IndexMatches) (scan : TermScan) :
    Progress Nat × IndexMatches :=
  match scan.step batch store search.typeName with
  | (.found id, scan) => (.continues, { search with scan := some scan }.credit id)
  | (.passed, scan) => (.continues, { search with scan := some scan })
  | (.finished, _) => (.continues, search.endPhase)
  | (.failed cause, scan) => (.fails cause, { search with scan := some scan, done := true })

/-- One step of the read of all records. -/
def stepFallback (batch : Nat) (store : Store) (search : IndexMatches)
    (records : Scan String StoredRecord) : Progress Nat × IndexMatches :=
  match records.next batch store.records with
  | (some row, records) =>
      let search := { search with fallback := some records }
      if search.minScore = 0 then (.yields ⟨row.1, 0⟩, search) else (.continues, search)
  | (none, records) => (.continues, { search with fallback := some records, done := true })

/-- One step of a search. -/
def step (batch : Nat) (store : Store) (search : IndexMatches) : Progress Nat × IndexMatches :=
  match search.pending with
  | candidate :: rest => (.yields candidate, { search with pending := rest })
  | [] =>
      if search.done then (.ends, search)
      else
        match search.fallback, search.scan with
        | some records, _ => search.stepFallback batch store records
        | none, some scan => search.stepScan batch store scan
        | none, none =>
            match search.terms[search.phase]? with
            | some term =>
                (.continues, { search with scan := some (.forTerm term search.tokenized) })
            | none => (.ends, { search with done := true })

/-! ## Progress -/

/-- The phases that are left, the phase in progress included. -/
def phasesLeft (search : IndexMatches) : Nat :=
  if search.done then 0 else search.terms.length - search.phase + 1

/-- An upper bound on the rows that are left in this phase. -/
def rowsLeft (store : Store) (search : IndexMatches) : Nat :=
  (match search.scan with
    | some scan => scan.remaining store
    | none => 0) +
  match search.fallback with
    | some records => records.remaining store.records
    | none => 0

/-- The steps that are left: first the phases, then whether the scan is still
to be opened, then the rows, and last the matches that wait. -/
def stepBound (store : Store) (search : IndexMatches) : StepBound :=
  (search.phasesLeft, if search.scan.isSome then 0 else 1, search.rowsLeft store,
    search.pending.length)

/-- Counting a record leaves the reading of rows alone. -/
theorem reading_credit (search : IndexMatches) (id : String) :
    (search.credit id).terms = search.terms ∧ (search.credit id).phase = search.phase ∧
      (search.credit id).done = search.done ∧ (search.credit id).scan = search.scan ∧
      (search.credit id).fallback = search.fallback := by
  unfold credit
  split
  · exact ⟨rfl, rfl, rfl, rfl, rfl⟩
  · dsimp only
    split
    · split
      · unfold emit
        split
        all_goals exact ⟨rfl, rfl, rfl, rfl, rfl⟩
      · exact ⟨rfl, rfl, rfl, rfl, rfl⟩
    · exact ⟨rfl, rfl, rfl, rfl, rfl⟩

theorem place_emit (search : IndexMatches) (id : String) (score : Nat) :
    (search.emit id score).terms = search.terms ∧
      (search.emit id score).phase = search.phase := by
  unfold emit
  split
  all_goals exact ⟨rfl, rfl⟩

/-- Dropping records leaves the place among the terms alone. -/
theorem place_dropFallen (search : IndexMatches) :
    search.dropFallen.terms = search.terms ∧ search.dropFallen.phase = search.phase := by
  have folded : forall (rows : List (String × Nat)) (start : IndexMatches),
      (rows.foldl (fun search row => search.emit row.1 row.2) start).terms = start.terms ∧
        (rows.foldl (fun search row => search.emit row.1 row.2) start).phase = start.phase := by
    intro rows
    induction rows with
    | nil => exact fun _ => ⟨rfl, rfl⟩
    | cons row rest ih =>
        intro start
        have first := place_emit start row.1 row.2
        have others := ih (start.emit row.1 row.2)
        exact ⟨others.1.trans first.1, others.2.trans first.2⟩
  unfold dropFallen
  dsimp only
  split
  · exact folded _ _
  · exact ⟨rfl, rfl⟩

theorem phasesLeft_endPhase_lt {search : IndexMatches} (notDone : search.done = false) :
    search.endPhase.phasesLeft < search.phasesLeft := by
  have place := place_dropFallen search
  unfold endPhase phasesLeft
  simp only [place.1, place.2, notDone, Bool.false_eq_true, if_false]
  split
  · omega
  · rename_i more
    simp only [Bool.or_eq_true, decide_eq_true_eq, not_or] at more
    omega

theorem stepBound_stepScan {batch : Nat} {store : Store} {search after : IndexMatches}
    {scan : TermScan} {progress : Progress Nat} (notDone : search.done = false)
    (isScan : search.scan = some scan)
    (isStep : search.stepScan batch store scan = (progress, after))
    (notFail : forall cause, progress ≠ .fails cause) :
    StepBound.Below (after.stepBound store) (search.stepBound store) := by
  unfold stepScan at isStep
  split at isStep
  · rename_i id later isRow
    cases isStep
    have fewer := TermScan.remaining_step_lt isRow nofun
    obtain ⟨terms, phase, done, scanned, fallback⟩ :=
      reading_credit { search with scan := some later } id
    unfold stepBound phasesLeft rowsLeft
    rw [terms, phase, done, scanned, fallback, isScan]
    exact StepBound.below_of_third (Nat.add_lt_add_right fewer _)
  · rename_i later isRow
    cases isStep
    have fewer := TermScan.remaining_step_lt isRow nofun
    unfold stepBound phasesLeft rowsLeft
    rw [isScan]
    exact StepBound.below_of_third (Nat.add_lt_add_right fewer _)
  · cases isStep
    exact StepBound.below_of_first (phasesLeft_endPhase_lt notDone)
  · cases isStep
    exact absurd rfl (notFail _)

theorem stepBound_stepFallback {batch : Nat} {store : Store} {search after : IndexMatches}
    {records : Scan String StoredRecord} {progress : Progress Nat}
    (notDone : search.done = false) (isFallback : search.fallback = some records)
    (isStep : search.stepFallback batch store records = (progress, after)) :
    StepBound.Below (after.stepBound store) (search.stepBound store) := by
  unfold stepFallback at isStep
  split at isStep
  · rename_i row later isRow
    have fewer := Scan.remaining_next_lt isRow
    have same : after = { search with fallback := some later } := by
      dsimp only at isStep
      split at isStep
      all_goals
        cases isStep
        rfl
    subst same
    unfold stepBound phasesLeft rowsLeft
    rw [isFallback]
    exact StepBound.below_of_third (Nat.add_lt_add_left fewer _)
  · cases isStep
    apply StepBound.below_of_first
    unfold phasesLeft
    rw [if_pos rfl, notDone]
    exact Nat.succ_pos _

theorem stepBound_step {batch : Nat} {store : Store} {search after : IndexMatches}
    {progress : Progress Nat} (isStep : search.step batch store = (progress, after))
    (notFail : forall cause, progress ≠ .fails cause) (notEnd : progress ≠ .ends) :
    StepBound.Below (after.stepBound store) (search.stepBound store) := by
  unfold step at isStep
  split at isStep
  · rename_i candidate rest isPending
    cases isStep
    unfold stepBound
    rw [isPending]
    exact StepBound.below_of_fourth (Nat.lt_succ_self _)
  · split at isStep
    · cases isStep
      exact absurd rfl notEnd
    · rename_i notDone
      have notDone : search.done = false := Bool.eq_false_iff.mpr notDone
      split at isStep
      · rename_i isFallback
        exact stepBound_stepFallback notDone isFallback isStep
      · rename_i isScan
        exact stepBound_stepScan notDone isScan isStep notFail
      · rename_i noScan
        split at isStep
        · cases isStep
          unfold stepBound phasesLeft
          rw [noScan]
          exact StepBound.below_of_second Nat.zero_lt_one
        · cases isStep
          exact absurd rfl notEnd

end IndexMatches

instance : Source IndexMatches Nat where
  step batch store search := search.step batch store
  stepBound store search := search.stepBound store
  stepBound_lt := IndexMatches.stepBound_step

end RecordIndex
