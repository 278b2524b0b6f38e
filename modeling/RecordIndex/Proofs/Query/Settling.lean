import RecordIndex.Proofs.Query.Steps

namespace RecordIndex

/-!
# What comes up once

A record comes up for being yielded when the last term counts it, or when it falls
out, behind which it is no candidate any more.  So none comes up again that was
yielded before, whatever score is required.
-/

namespace IndexMatches

variable {batch : Nat} {store : Store} {search : IndexMatches}

/-- What was yielded does not come up again: it fell out in an earlier phase, or the
last term has counted it. -/
def Settled (search : IndexMatches) : Prop :=
  ∀ id ∈ search.yielded, (0 < search.phase ∧ search.counts.get? id = none) ∨
    (search.phase + 1 = search.terms.length ∧ id ∈ search.credited ∧
      search.counts.get? id = some (search.phase + 1))

theorem emit_yields (search : IndexMatches) (id : String) (score : Nat) :
    ∃ yielded pending, search.emit id score = { search with yielded, pending } ∧
      yielded ⊆ id :: search.yielded := by
  unfold emit
  split
  · exact ⟨_, _, rfl, List.Subset.refl _⟩
  · exact ⟨search.yielded, search.pending, rfl, List.subset_cons_self _ _⟩

theorem foldl_emit_yields (rows : List (String × Nat)) (search : IndexMatches) :
    ∃ yielded pending, rows.foldl (fun search row => search.emit row.1 row.2) search =
        { search with yielded, pending } ∧
      ∀ id ∈ yielded, id ∈ rows.map Prod.fst ∨ id ∈ search.yielded := by
  induction rows generalizing search with
  | nil => exact ⟨search.yielded, search.pending, rfl, fun _ => .inr⟩
  | cons row rest ih =>
      rcases emit_yields search row.1 row.2 with ⟨before, waiting, isEmit, here⟩
      rcases ih (search.emit row.1 row.2) with ⟨yielded, pending, isFold, later⟩
      refine ⟨yielded, pending, ?_, fun id member => ?_⟩
      · rw [List.foldl_cons, isFold, isEmit]
      · rw [isEmit] at later
        rw [List.map_cons, List.mem_cons]
        rcases later id member with isLater | isEarlier
        · exact .inl (.inr isLater)
        · exact (List.mem_cons.mp (here isEarlier)).imp_left .inl

namespace Settled

/-- A candidate that this phase counts was not yielded before. -/
theorem notMem_of_isCandidate (settled : search.Settled) {id : String}
    (isNew : id ∉ search.credited) (isCandidate : search.isCandidate id = true) :
    id ∉ search.yielded := by
  intro yielded
  rcases settled id yielded with ⟨later, gone⟩ | ⟨_, known, _⟩
  · simp [IndexMatches.isCandidate, gone, Nat.ne_of_gt later] at isCandidate
  · exact isNew known

/-- What falls out was not yielded before. -/
theorem notMem_of_fallenOut (settled : search.Settled) {row : String × Nat}
    (fallen : row ∈ search.fallenOut) : row.1 ∉ search.yielded := by
  intro yielded
  rcases List.mem_filter.mp fallen with ⟨isRow, uncounted⟩
  have isCount := (Table.get?_eq_some_iff search.counts).mpr isRow
  have uncounted := of_decide_eq_true uncounted
  rcases settled row.1 yielded with ⟨_, gone⟩ | ⟨_, _, counted⟩
  · cases gone.symm.trans isCount
  · have same := Option.some.inj (counted.symm.trans isCount)
    omega

theorem counted (settled : search.Settled) {id : String} (notYielded : id ∉ search.yielded) :
    (search.counted id).Settled := by
  intro other yielded
  have different : other ≠ id := fun same => notYielded (same ▸ yielded)
  have unchanged : (search.counted id).counts.get? other = search.counts.get? other :=
    Rows.get?_insert_of_ne different _ _
  rw [unchanged]
  exact (settled other yielded).imp_right fun last => ⟨last.1, .tail _ last.2.1, last.2.2⟩

/-- At the last term, what is counted may be yielded. -/
theorem emit_counted (settled : search.Settled) {id : String} (notYielded : id ∉ search.yielded)
    (last : search.phase + 1 = search.terms.length) :
    ((search.counted id).emit id (search.phase + 1)).Settled := by
  have isCount : (search.counted id).counts.get? id = some (search.phase + 1) :=
    Rows.get?_insert_self _ _ _
  rcases emit_yields (search.counted id) id (search.phase + 1) with ⟨yielded, pending, same, fewer⟩
  rw [same]
  intro other isYielded
  rcases List.mem_cons.mp (fewer isYielded) with rfl | before
  · exact .inr ⟨last, .head _, isCount⟩
  · exact settled.counted notYielded other before

theorem credit (settled : search.Settled) (id : String) : (search.credit id).Settled := by
  by_cases known : id ∈ search.credited
  · rw [credit_of_mem known]
    exact settled
  · by_cases isCandidate : search.isCandidate id = true
    · have notYielded := settled.notMem_of_isCandidate known isCandidate
      rw [credit_of_isCandidate known isCandidate]
      split
      · rename_i last
        exact settled.emit_counted notYielded last
      · exact settled.counted notYielded
    · rw [credit_of_fallen known isCandidate]
      intro other yielded
      exact (settled other yielded).imp_right fun last => ⟨last.1, .tail _ last.2.1, last.2.2⟩

/-- Where more terms follow, all that was yielded has fallen out. -/
theorem endPhase (settled : search.Settled) (running : search.endPhase.done = false) :
    search.endPhase.Settled := by
  have place := place_dropFallen search
  simp only [IndexMatches.endPhase, place.1, place.2, Bool.or_eq_false_iff, decide_eq_false_iff_not]
    at running
  have gone (id : String) (member : id ∈ search.dropFallen.yielded) :
      search.dropFallen.counts.get? id = none := by
    rw [dropFallen_eq] at member ⊢
    rcases foldl_emit_yields (if search.ranked then search.fallenOut else [])
      search.withoutFallen with ⟨yielded, pending, same, either⟩
    rw [same] at member ⊢
    rcases either id member with fallen | before
    · split at fallen
      · exact Table.get?_eraseAll_of_mem fallen _
      · cases fallen
    · rcases settled id before with ⟨_, gone⟩ | ⟨last, _⟩
      · exact Table.get?_eraseAll_of_none gone _
      · omega
  exact fun id member => .inl ⟨Nat.succ_pos _, gone id member⟩

end Settled

/-! ## Settled steps -/

theorem stepFallback_eq {records : Scan String StoredRecord} {progress : Progress Nat}
    {after : IndexMatches} (isStep : search.stepFallback batch store records = (progress, after)) :
    ∃ later done, after = { search with fallback := some later, done } := by
  unfold stepFallback at isStep
  split at isStep
  · dsimp only at isStep
    split at isStep
    all_goals
      cases isStep
      exact ⟨_, search.done, rfl⟩
  · cases isStep
    exact ⟨_, _, rfl⟩

/-- As long as a search runs, what it has yielded is settled. -/
theorem settled_of_step {progress : Progress Nat} {after : IndexMatches}
    (settled : search.done = false -> search.Settled)
    (isStep : search.step batch store = (progress, after)) (running : after.done = false) :
    after.Settled := by
  cases isFallback : search.fallback with
  | none =>
      cases moves_of_step isFallback isStep with
      | hands waits => exact settled running
      | rests nothing ended => exact settled running
      | stops nothing running' noTerm => cases running
      | opens nothing running' noScan isTerm => exact settled running'
      | @finds scan later id nothing running' isScan reads =>
          have settled : Settled { search with scan := some later } := settled running'
          exact settled.credit id
      | passes nothing running' isScan reads => exact settled running'
      | finishes nothing running' isScan reads => exact (settled running').endPhase running
      | fails isScan reads => cases running
  | some records =>
      cases isPending : search.pending with
      | cons candidate rest =>
          rw [step, isPending] at isStep
          cases isStep
          exact settled running
      | nil =>
          cases ended : search.done with
          | true =>
              rw [step_of_done isPending ended] at isStep
              cases isStep
              exact settled running
          | false =>
              rw [step_of_fallback isPending ended isFallback] at isStep
              rcases stepFallback_eq isStep with ⟨later, done, rfl⟩
              exact settled ended

end IndexMatches

end RecordIndex
