import RecordIndex.Proofs.Query.Hits
import RecordIndex.Proofs.Query.Settling

namespace RecordIndex

/-!
# Raising the required score

The required score decides on nothing but what is yielded.  A record that is withheld
for its score would not have come up again with a better one, so a search with a
higher required score goes the same way, and yields what is good enough of what the
other one yields.
-/

namespace IndexMatches

variable {batch : Nat} {store : Store} {search : IndexMatches}

/-! ## Two searches -/

/-- The search with another required score and other records yielded, of which those
wait that are good enough. -/
def raise (search : IndexMatches) (threshold : Nat) (yielded : List String) : IndexMatches :=
  { search with
    minScore := threshold
    yielded
    pending := search.pending.filter fun candidate => decide (threshold ≤ candidate.mark) }

/-- The other search is the same but that it requires a higher score and has yielded
less. -/
structure IsRaised (threshold : Nat) (search raised : IndexMatches) : Prop where
  looser : search.minScore ≤ threshold
  same : ∃ yielded, yielded ⊆ search.yielded ∧ raised = search.raise threshold yielded

namespace IsRaised

variable {threshold : Nat} {raised : IndexMatches}

/-- A record that comes up for the first time is yielded by both, or is withheld for
its score. -/
theorem emit (isRaised : IsRaised threshold search raised) {id : String}
    (isNew : id ∉ search.yielded) (score : Nat) :
    IsRaised threshold (search.emit id score) (raised.emit id score) := by
  rcases isRaised with ⟨looser, yielded, fewer, rfl⟩
  have isNew' : id ∉ (search.raise threshold yielded).yielded := fun member => isNew (fewer member)
  rw [emit_of_notMem isNew, emit_of_notMem isNew']
  by_cases enough : threshold ≤ score
  · rw [if_pos (Nat.le_trans looser enough)]
    refine ⟨looser, id :: yielded, List.cons_subset_cons id fewer, ?_⟩
    simp [raise, enough]
  · split
    · refine ⟨looser, yielded, fun other member => .tail _ (fewer member), ?_⟩
      simp [raise, enough]
    · refine ⟨looser, yielded, fewer, ?_⟩
      simp [raise, enough]

theorem foldl_emit {rows : List (String × Nat)} (distinct : (rows.map Prod.fst).Nodup)
    (isRaised : IsRaised threshold search raised) (areNew : ∀ row ∈ rows, row.1 ∉ search.yielded) :
    IsRaised threshold (rows.foldl (fun search row => search.emit row.1 row.2) search)
      (rows.foldl (fun search row => search.emit row.1 row.2) raised) := by
  induction rows generalizing search raised with
  | nil => exact isRaised
  | cons row rest ih =>
      rw [List.map_cons, List.nodup_cons] at distinct
      rw [List.forall_mem_cons] at areNew
      apply ih distinct.2 (isRaised.emit areNew.1 row.2)
      intro other member yielded
      rcases emit_yields search row.1 row.2 with ⟨later, pending, same, fewer⟩
      rw [same] at yielded
      rcases List.mem_cons.mp (fewer yielded) with isFirst | before
      · exact distinct.1 (isFirst ▸ List.mem_map_of_mem member)
      · exact areNew.2 other member before

theorem counted (isRaised : IsRaised threshold search raised) (id : String) :
    IsRaised threshold (search.counted id) (raised.counted id) := by
  rcases isRaised with ⟨looser, yielded, fewer, rfl⟩
  exact ⟨looser, yielded, fewer, rfl⟩

/-- Both count the same records. -/
theorem credit (isRaised : IsRaised threshold search raised) (settled : search.Settled)
    (id : String) : IsRaised threshold (search.credit id) (raised.credit id) := by
  have counted := isRaised.counted id
  rcases isRaised with ⟨looser, yielded, fewer, rfl⟩
  by_cases known : id ∈ search.credited
  · have known' : id ∈ (search.raise threshold yielded).credited := known
    rw [credit_of_mem known, credit_of_mem known']
    exact ⟨looser, yielded, fewer, rfl⟩
  · have isNew' : id ∉ (search.raise threshold yielded).credited := known
    by_cases isCandidate : search.isCandidate id = true
    · have isCandidate' : (search.raise threshold yielded).isCandidate id = true := isCandidate
      rw [credit_of_isCandidate known isCandidate, credit_of_isCandidate isNew' isCandidate']
      by_cases last : search.phase + 1 = search.terms.length
      · have last' : (search.raise threshold yielded).phase + 1 =
          (search.raise threshold yielded).terms.length := last
        rw [if_pos last, if_pos last']
        exact counted.emit (settled.notMem_of_isCandidate known isCandidate) _
      · have more' : ¬ (search.raise threshold yielded).phase + 1 =
          (search.raise threshold yielded).terms.length := last
        rw [if_neg last, if_neg more']
        exact counted
    · have fallen' : ¬ (search.raise threshold yielded).isCandidate id = true := isCandidate
      rw [credit_of_fallen known isCandidate, credit_of_fallen isNew' fallen']
      exact ⟨looser, yielded, fewer, rfl⟩

theorem dropFallen (isRaised : IsRaised threshold search raised) (settled : search.Settled) :
    IsRaised threshold search.dropFallen raised.dropFallen := by
  rcases isRaised with ⟨looser, yielded, fewer, rfl⟩
  rw [dropFallen_eq, dropFallen_eq]
  apply foldl_emit
  · split
    · exact search.counts.ascending.nodup_keys.sublist (List.filter_sublist.map _)
    · exact List.nodup_nil
  · exact ⟨looser, yielded, fewer, rfl⟩
  · intro row member
    split at member
    · exact settled.notMem_of_fallenOut member
    · cases member

theorem endPhase (isRaised : IsRaised threshold search raised) (settled : search.Settled) :
    IsRaised threshold search.endPhase raised.endPhase := by
  have dropped := isRaised.dropFallen settled
  rcases isRaised with ⟨looser, _, _, rfl⟩
  rcases dropped with ⟨looser, yielded, fewer, same⟩
  refine ⟨looser, yielded, fewer, ?_⟩
  rw [IndexMatches.endPhase, same]
  rfl

end IsRaised

/-! ## Side by side -/

/-- What a search with a higher score does where the other one does a step: the same,
or nothing that is seen where what the other one yields is not good enough. -/
inductive Follows (batch : Nat) (store : Store) (threshold : Nat) (raised after : IndexMatches) :
    Progress Nat -> Prop where
  | same {progress : Progress Nat} {later : IndexMatches}
      (isStep : raised.step batch store = (progress, later))
      (isRaised : IsRaised threshold after later)
      (enough : forall candidate, progress = .yields candidate -> threshold ≤ candidate.mark) :
      Follows batch store threshold raised after progress
  | passes {candidate : Candidate Nat} {later : IndexMatches}
      (isStep : raised.step batch store = (.continues, later))
      (isRaised : IsRaised threshold after later) (low : ¬ threshold ≤ candidate.mark) :
      Follows batch store threshold raised after (.yields candidate)
  | rests {candidate : Candidate Nat} (isRaised : IsRaised threshold after raised)
      (low : ¬ threshold ≤ candidate.mark) :
      Follows batch store threshold raised after (.yields candidate)

section

variable {threshold : Nat} {raised after : IndexMatches} {progress : Progress Nat}
  {records : Scan String StoredRecord}

/-- Both hand out what waits, if it is good enough. -/
theorem IsRaised.follows_pending (isRaised : IsRaised threshold search raised)
    {candidate : Candidate Nat} {rest : List (Candidate Nat)}
    (waits : search.pending = candidate :: rest) :
    Follows batch store threshold raised { search with pending := rest } (.yields candidate) := by
  rcases isRaised with ⟨looser, yielded, fewer, rfl⟩
  by_cases enough : threshold ≤ candidate.mark
  · have waits' : (search.raise threshold yielded).pending =
        candidate :: rest.filter fun candidate => decide (threshold ≤ candidate.mark) := by
      simp [raise, waits, enough]
    apply Follows.same
    · rw [step, waits']
    · exact ⟨looser, yielded, fewer, rfl⟩
    · rintro _ ⟨⟩
      exact enough
  · refine .rests ⟨looser, yielded, fewer, ?_⟩ enough
    simp [raise, waits, enough]

/-- Both scan the same rows. -/
theorem IsRaised.follows_scan (isRaised : IsRaised threshold search raised)
    (settled : search.Settled) {scan : TermScan}
    (isStep : search.stepScan batch store scan = (progress, after)) :
    ∃ later, raised.stepScan batch store scan = (progress, later) ∧
      IsRaised threshold after later ∧ forall candidate, progress ≠ .yields candidate := by
  have typeName : raised.typeName = search.typeName := by
    rcases isRaised with ⟨_, _, _, rfl⟩
    rfl
  have reading (scan : TermScan) :
      IsRaised threshold { search with scan := some scan } { raised with scan := some scan } := by
    rcases isRaised with ⟨looser, yielded, fewer, rfl⟩
    exact ⟨looser, yielded, fewer, rfl⟩
  have sameRow : scan.step batch store raised.typeName = scan.step batch store search.typeName := by
    rw [typeName]
  unfold stepScan at isStep ⊢
  split at isStep
  · rename_i id later reads
    have settled : Settled { search with scan := some later } := settled
    cases isStep
    rw [sameRow, reads]
    exact ⟨_, rfl, (reading later).credit settled id, nofun⟩
  · rename_i later reads
    cases isStep
    rw [sameRow, reads]
    exact ⟨_, rfl, reading later, nofun⟩
  · rename_i reads
    cases isStep
    rw [sameRow, reads]
    exact ⟨_, rfl, isRaised.endPhase settled, nofun⟩
  · rename_i later reads
    cases isStep
    rw [sameRow, reads]
    rcases isRaised with ⟨looser, yielded, fewer, rfl⟩
    exact ⟨_, rfl, ⟨looser, yielded, fewer, rfl⟩, nofun⟩

/-- Both read the same records, which have the score zero. -/
theorem IsRaised.follows_fallback (isRaised : IsRaised threshold search raised)
    (isStep' : raised.step batch store = raised.stepFallback batch store records)
    (isStep : search.stepFallback batch store records = (progress, after)) :
    Follows batch store threshold raised after progress := by
  rcases isRaised with ⟨looser, yielded, fewer, rfl⟩
  unfold stepFallback at isStep isStep'
  split at isStep
  · rename_i row later reads
    rw [reads] at isStep'
    dsimp only at isStep isStep'
    by_cases isZero : threshold = 0
    · have isLoose : search.minScore = 0 := Nat.le_zero.mp (isZero ▸ looser)
      have isStrict : (search.raise threshold yielded).minScore = 0 := isZero
      rw [if_pos isLoose] at isStep
      rw [if_pos isStrict] at isStep'
      cases isStep
      exact .same isStep' ⟨looser, yielded, fewer, rfl⟩ (by simp [isZero])
    · have isStrict : ¬ (search.raise threshold yielded).minScore = 0 := isZero
      rw [if_neg isStrict] at isStep'
      split at isStep
      · cases isStep
        exact .passes isStep' ⟨looser, yielded, fewer, rfl⟩ (by simpa using isZero)
      · cases isStep
        exact .same isStep' ⟨looser, yielded, fewer, rfl⟩ nofun
  · rename_i later reads
    rw [reads] at isStep'
    cases isStep
    exact .same isStep' ⟨looser, yielded, fewer, rfl⟩ nofun

/-- Both are at the same place. -/
theorem IsRaised.place (isRaised : IsRaised threshold search raised) :
    raised.done = search.done ∧ raised.fallback = search.fallback ∧ raised.scan = search.scan ∧
      raised.terms[raised.phase]? = search.terms[search.phase]? := by
  rcases isRaised with ⟨_, _, _, rfl⟩
  simp [raise]

/-- Where nothing waits, both do the same. -/
theorem IsRaised.follows_nothing (isRaised : IsRaised threshold search raised)
    (settled : search.done = false -> search.Settled) (nothing : search.pending = [])
    (isStep : search.step batch store = (progress, after)) :
    Follows batch store threshold raised after progress := by
  have nothing' : raised.pending = [] := by
    rcases isRaised with ⟨_, _, _, rfl⟩
    simp [raise, nothing]
  rcases isRaised.place with ⟨sameEnd, sameFallback, sameScan, sameTerm⟩
  cases ended : search.done with
  | true =>
      rw [step_of_done nothing ended] at isStep
      cases isStep
      exact .same (step_of_done nothing' (sameEnd.trans ended)) isRaised nofun
  | false =>
      have running' := sameEnd.trans ended
      cases isFallback : search.fallback with
      | some records =>
          rw [step_of_fallback nothing ended isFallback] at isStep
          exact isRaised.follows_fallback
            (step_of_fallback nothing' running' (sameFallback.trans isFallback)) isStep
      | none =>
          have noFallback' := sameFallback.trans isFallback
          cases isScan : search.scan with
          | some scan =>
              rw [step_of_scan nothing ended isFallback isScan] at isStep
              rcases isRaised.follows_scan (settled ended) isStep with
                ⟨later, follows, isRaisedLater, notYields⟩
              have isStep' : raised.step batch store = _ :=
                step_of_scan nothing' running' noFallback' (sameScan.trans isScan)
              exact .same (isStep'.trans follows) isRaisedLater
                fun candidate isYield => absurd isYield (notYields candidate)
          | none =>
              have noScan' := sameScan.trans isScan
              cases isTerm : search.terms[search.phase]? with
              | some term =>
                  have isStep' : raised.step batch store = _ :=
                    step_of_term nothing' running' noFallback' noScan' (sameTerm.trans isTerm)
                  rw [step_of_term nothing ended isFallback isScan isTerm] at isStep
                  cases isStep
                  rcases isRaised with ⟨looser, yielded, fewer, rfl⟩
                  exact .same isStep' ⟨looser, yielded, fewer, rfl⟩ nofun
              | none =>
                  have isStep' : raised.step batch store = _ :=
                    step_of_noTerm nothing' running' noFallback' noScan' (sameTerm.trans isTerm)
                  rw [step_of_noTerm nothing ended isFallback isScan isTerm] at isStep
                  cases isStep
                  rcases isRaised with ⟨looser, yielded, fewer, rfl⟩
                  exact .same isStep' ⟨looser, yielded, fewer, rfl⟩ nofun

/-- Step by step, the search with the higher score follows the other one. -/
theorem IsRaised.follows (isRaised : IsRaised threshold search raised)
    (settled : search.done = false -> search.Settled)
    (isStep : search.step batch store = (progress, after)) :
    Follows batch store threshold raised after progress := by
  cases waits : search.pending with
  | nil => exact isRaised.follows_nothing settled waits isStep
  | cons candidate rest =>
      rw [step, waits] at isStep
      cases isStep
      exact isRaised.follows_pending waits

/-- On a store that does not change, the search with the higher score yields what is
good enough of what the other one yields. -/
theorem IsRaised.runs {candidates : List (Candidate Nat)} {stop : Option Error}
    (isRaised : IsRaised threshold search raised)
    (settled : search.done = false -> search.Settled)
    (runs : Source.Runs batch store search candidates stop) :
    Source.Runs batch store raised
      (candidates.filter fun candidate => decide (threshold ≤ candidate.mark)) stop := by
  induction runs generalizing raised with
  | yields isStep runs ih =>
      have settledLater := settled_of_step settled isStep
      cases isRaised.follows settled isStep with
      | same isStep' isRaisedLater enough =>
          rw [List.filter_cons_of_pos (by simpa using enough _ rfl)]
          exact .yields isStep' (ih isRaisedLater settledLater)
      | passes isStep' isRaisedLater low =>
          rw [List.filter_cons_of_neg (by simpa using low)]
          exact .continues isStep' (ih isRaisedLater settledLater)
      | rests isRaisedLater low =>
          rw [List.filter_cons_of_neg (by simpa using low)]
          exact ih isRaisedLater settledLater
  | continues isStep runs ih =>
      have settledLater := settled_of_step settled isStep
      cases isRaised.follows settled isStep with
      | same isStep' isRaisedLater enough => exact .continues isStep' (ih isRaisedLater settledLater)
  | fails isStep =>
      cases isRaised.follows settled isStep with
      | same isStep' isRaisedLater enough => exact .fails isStep'
  | ends isStep =>
      cases isRaised.follows settled isStep with
      | same isStep' isRaisedLater enough => exact .ends isStep'

end

end IndexMatches

end RecordIndex
