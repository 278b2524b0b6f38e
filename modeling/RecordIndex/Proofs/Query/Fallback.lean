import RecordIndex.Proofs.Query.Hits

namespace RecordIndex

/-!
# Queries without terms

A pattern may ask for nothing that an index could answer.  Then there is no
term to scan for, and a query yields nothing, or falls back to reading the
records of the type that it asks for, in order, with score zero.
-/

namespace IndexMatches

variable {batch : Nat} {store : Store} {search : IndexMatches}

/-- A search that is done yields what waits and no more. -/
theorem drain_done (nothing : search.pending = []) (ended : search.done = true) :
    Source.drain batch store search = .ok [] := by
  have isStep : Source.step batch store search = (.ends, search) := step_of_done nothing ended
  rw [Source.drain_eq isStep]

/-- The records that are read, if score zero is enough. -/
def fallbackCandidates (minScore : Nat) (rows : List (String × StoredRecord)) :
    List (Candidate Nat) :=
  if minScore = 0 then rows.map fun row => ⟨row.1, 0⟩ else []

theorem step_reading (nothing : search.pending = []) (running : search.done = false)
    {records : Scan String StoredRecord} (isFallback : search.fallback = some records) :
    Source.step batch store search =
      match records.next batch store.records with
      | (some row, later) =>
          (if search.minScore = 0 then .yields ⟨row.1, 0⟩ else .continues,
            { search with fallback := some later })
      | (none, later) => (.continues, { search with fallback := some later, done := true }) := by
  change search.step batch store = _
  rw [step_of_fallback nothing running isFallback]
  unfold stepFallback
  rcases records.next batch store.records with ⟨_ | row, later⟩
  · rfl
  · dsimp only
    split
    all_goals rfl

/-- A read of the records goes through all that are left. -/
theorem drain_reading (positive : 0 < batch) {rows : List (String × StoredRecord)}
    (nothing : search.pending = []) (running : search.done = false)
    {records : Scan String StoredRecord} (isFallback : search.fallback = some records)
    (isRest : records.rest store.records = rows) :
    Source.drain batch store search = .ok (fallbackCandidates search.minScore rows) := by
  induction rows generalizing search records with
  | nil =>
      have isStep : Source.step batch store search = _ :=
        step_reading nothing running isFallback
      have next := Scan.next_spec positive store.records records
      rw [isRest] at next
      split at next
      · rename_i later isNext
        have ended : Source.drain batch store
            { search with fallback := some later, done := true } = .ok [] :=
          drain_done nothing rfl
        rw [isNext] at isStep
        rw [Source.drain_eq isStep]
        dsimp only
        rw [ended]
        unfold fallbackCandidates
        rw [List.map_nil, ite_self]
      · cases next
  | cons first rest ih =>
      have isStep : Source.step batch store search = _ :=
        step_reading nothing running isFallback
      have next := Scan.next_spec positive store.records records
      rw [isRest] at next
      split at next
      · cases next
      · rename_i row later isNext
        rcases List.cons.inj next with ⟨rfl, isLater⟩
        have goesOn : Source.drain batch store { search with fallback := some later } =
            .ok (fallbackCandidates search.minScore rest) :=
          ih nothing running rfl isLater.symm
        rw [isNext] at isStep
        dsimp only at isStep
        unfold fallbackCandidates at goesOn ⊢
        by_cases enough : search.minScore = 0
        · rw [if_pos enough] at goesOn isStep ⊢
          rw [Source.drain_eq isStep]
          dsimp only
          rw [goesOn]
          rfl
        · rw [if_neg enough] at goesOn isStep ⊢
          rw [Source.drain_eq isStep]
          exact goesOn

/-- Without any term, a search that falls back reads the records of its type,
and any other yields nothing. -/
theorem drain_noTerms (positive : 0 < batch) (store : Store) (options : IndexOptions)
    (tokenized : Bool) : Source.drain batch store (forTerms [] options tokenized) =
      .ok (if options.scanFallback then
        fallbackCandidates (options.requiredScore 0) (store.records.range
          (Store.keyRange options.typeName).1 (Store.keyRange options.typeName).2)
      else []) := by
  cases fallsBack : options.scanFallback with
  | false =>
      refine drain_done rfl ?_
      unfold forTerms
      rw [fallsBack]
      rfl
  | true =>
      have isFallback : (forTerms [] options tokenized).fallback =
          some (.ofBounds (Store.keyRange options.typeName).1
            (Store.keyRange options.typeName).2) := by
        unfold forTerms
        rw [fallsBack]
        rfl
      have running : (forTerms [] options tokenized).done = false := by
        unfold forTerms
        rw [fallsBack]
        rfl
      exact drain_reading positive rfl running isFallback rfl

/-- With or without terms, a record is yielded with its run as the score. -/
theorem drain_marks (positive : 0 < batch) (readable : TermScan.Readable store)
    (terms : List QueryTerm) (options : IndexOptions) (tokenized : Bool) :
    ∃ candidates, Source.drain batch store (forTerms terms options tokenized) = .ok candidates ∧
      ∀ candidate ∈ candidates,
        candidate.mark = (forTerms terms options tokenized).leading store candidate.id := by
  by_cases noTerms : terms = []
  · subst noTerms
    refine ⟨_, drain_noTerms positive store options tokenized, fun candidate member => ?_⟩
    have isZero : candidate.mark = 0 := by
      unfold fallbackCandidates at member
      split at member
      · split at member
        · rcases List.mem_map.mp member with ⟨row, _, rfl⟩
          rfl
        · cases member
      · cases member
    rw [isZero]
    rfl
  · rcases drain_forTerms positive readable noTerms options tokenized with
      ⟨candidates, drained, _, deserves⟩
    exact ⟨candidates, drained, fun candidate member => ((deserves candidate).mp member).1⟩

end IndexMatches

end RecordIndex
