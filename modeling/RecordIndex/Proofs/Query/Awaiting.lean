import RecordIndex.Proofs.Index.Changes
import RecordIndex.Proofs.Query.Finding

namespace RecordIndex

/-!
# Answers that stay

While a query reads an index, other records may be written, and their entries
appear and vanish between two batches of a scan.  An answer of a record that
nothing writes stays where it is, and the scan comes to it.
-/

/-- The record holds an answer to the term that the scan comes to, whatever else
is indexed. -/
structure QueryTerm.MetBy (term : QueryTerm) (tokenized : Bool) (store : Store) (id : String)
    (held : Term) : Prop where
  hasLeaf : held.HasLeaf
  reaches : term.Reaches tokenized (fun other _ => other.HasLeaf) held id
  isThere : ∃ count, (held.key (term.plan tokenized).order id, count) ∈
    (store.index (term.plan tokenized).order).rows

/-- The answer of a record stays where it is while other records change. -/
theorem QueryTerm.MetBy.changes {term : QueryTerm} {tokenized : Bool} {before after : Store}
    {id : String} {held : Term} (met : term.MetBy tokenized before id held)
    {written : List String} (changes : Store.Changes written before after)
    (spared : id ∉ written) : term.MetBy tokenized after id held := by
  refine ⟨met.hasLeaf, met.reaches, ?_⟩
  rcases met.isThere with ⟨count, isRow⟩
  have kept := changes.entries id spared (term.plan tokenized).order held met.hasLeaf
  rw [(Table.get?_eq_some_iff _).mpr isRow] at kept
  exact ⟨count, (Table.get?_eq_some_iff _).mp kept⟩

namespace TermScan

variable {term : QueryTerm} {tokenized : Bool} {scan : TermScan} {store : Store}
  {typeName : Option String} {batch : Nat}

/-- The scan answers the term and has come some way. -/
structure Underway (term : QueryTerm) (tokenized : Bool) (scan : TermScan) : Prop where
  isScan : scan = { forTerm term tokenized with rows := scan.rows }
  fetched : scan.rows.Fetched (IndexEntry.IsLegible scan.order)

theorem underway_forTerm (term : QueryTerm) (tokenized : Bool) :
    (forTerm term tokenized).Underway term tokenized :=
  ⟨rfl, nofun⟩

/-- In legible indexes a scan reads on or is finished. -/
theorem Underway.step (underway : scan.Underway term tokenized) (legible : store.IsLegible)
    {result : RowResult} {after : TermScan}
    (reads : scan.step batch store typeName = (result, after)) :
    after.Underway term tokenized ∧ forall cause, result ≠ .failed cause := by
  rcases isNext : scan.rows.next batch (store.index scan.order) with ⟨row, rows⟩
  rcases underway.fetched.next (legible scan.order) isNext with ⟨fetched, isRead⟩
  have goesOn : Underway term tokenized { scan with rows } := by
    refine ⟨?_, fetched⟩
    conv => lhs; rw [underway.isScan]
  unfold TermScan.step at reads
  rw [isNext] at reads
  cases row with
  | none =>
      cases reads
      exact ⟨goesOn, fun _ => nofun⟩
  | some row =>
      rcases isRead row rfl with ⟨held, id, hasLeaf, isKey⟩
      dsimp only at reads
      rw [← isKey, IndexEntry.ofKey?_key scan.order hasLeaf id] at reads
      cases reads
      exact ⟨goesOn, test_ne_failed scan typeName _⟩

/-- A scan that awaits an answer of a record finds the record or goes on. -/
theorem Underway.step_of_awaits (underway : scan.Underway term tokenized)
    (legible : store.IsLegible) (positive : 0 < batch) {id : String}
    (isTyped : hasType typeName id = true) {held : Term}
    (met : term.MetBy tokenized store id held)
    (awaits : scan.rows.Awaits (held.key (term.plan tokenized).order id)) :
    match scan.step batch store typeName with
    | (.found other, after) =>
        other = id ∨ after.rows.Awaits (held.key (term.plan tokenized).order id)
    | (.passed, after) => after.rows.Awaits (held.key (term.plan tokenized).order id)
    | (.finished, _) => False
    | (.failed _, _) => False := by
  have sameOrder : scan.order = (term.plan tokenized).order := by
    rw [underway.isScan]
    rfl
  have sameTest : scan.test typeName = (forTerm term tokenized).test typeName := by
    rw [underway.isScan]
    rfl
  have next := awaits.next positive met.isThere
  rcases isNext : scan.rows.next batch (store.index (term.plan tokenized).order) with ⟨row, rows⟩
  rw [isNext] at next
  cases row with
  | none => exact next.elim
  | some row =>
      have fetched := underway.fetched
      rw [sameOrder] at fetched
      rcases (fetched.next (legible _) isNext).2 row rfl with ⟨other, id', hasLeaf, isKey⟩
      have read := IndexEntry.ofKey?_key (term.plan tokenized).order hasLeaf id'
      unfold TermScan.step
      rw [sameOrder, isNext]
      dsimp only
      rw [← isKey, read, sameTest]
      dsimp only
      rcases next with here | ⟨before, awaits⟩
      · -- The row is the entry of the answer.
        rw [← isKey] at here
        rcases Term.key_inj.mp here with ⟨sameTerm, rfl⟩
        rcases Term.mk.inj (Term.encode_inj.mp sameTerm) with
          ⟨samePath, sameLeaf⟩
        have found : (forTerm term tokenized).test typeName
            ⟨other.path, other.leaf.keyed, id'⟩ = .found id' := by
          rw [samePath, sameLeaf]
          exact test_eq_found_iff.mpr ⟨met.reaches.accepts, met.reaches.matched, isTyped, rfl⟩
        rw [found]
        exact .inl rfl
      · cases tested : (forTerm term tokenized).test typeName
            ⟨other.path, other.leaf.keyed, id'⟩ with
        | found _ => exact .inr awaits
        | passed => exact awaits
        | finished =>
            rcases done_of_test_eq_finished tested with ⟨stops, accepts, done⟩
            exact met.reaches.unfinished stops other id' hasLeaf accepts (isKey ▸ before) done
        | failed cause => exact test_ne_failed _ typeName _ cause tested

end TermScan

end RecordIndex
