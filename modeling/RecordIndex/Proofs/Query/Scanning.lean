import RecordIndex.Proofs.Table.Upcoming
import RecordIndex.Query.TermScan

namespace RecordIndex

/-!
# Reading a scan to its end

A scan for a term makes of the rows of its range the records that it finds,
each as often as rows of it satisfy the term, and it fails only where it comes
upon a key that cannot be read.
-/

namespace TermScan

variable {batch : Nat} {store : Store} {typeName : Option String}

/-- The records that a scan finds in some rows, one for every row. -/
def foundIn (scan : TermScan) (typeName : Option String) : List (Key × Nat) -> List String
  | [] => []
  | row :: rest =>
      match IndexEntry.ofKey? scan.order row.1 with
      | .error _ => []
      | .ok entry =>
          match scan.test typeName entry with
          | .found id => id :: scan.foundIn typeName rest
          | .passed => scan.foundIn typeName rest
          | .finished => []
          | .failed _ => []

/-- The records that are still to be found in an unchanging store. -/
def upcoming (store : Store) (typeName : Option String) (scan : TermScan) : List String :=
  scan.foundIn typeName (scan.rows.rest (store.index scan.order))

/-- The records that are found for a term. -/
def finds (store : Store) (typeName : Option String) (tokenized : Bool) (term : QueryTerm) :
    List String :=
  (forTerm term tokenized).upcoming store typeName

/-- Every key of the indexes can be read. -/
def Readable (store : Store) : Prop :=
  forall order, ∀ row ∈ (store.index order).rows, ∃ entry, IndexEntry.ofKey? order row.1 = .ok entry

/-- The rows to come are rows of the index. -/
def Sound (store : Store) (scan : TermScan) : Prop :=
  ∀ row ∈ scan.rows.rest (store.index scan.order), row ∈ (store.index scan.order).rows

theorem sound_forTerm (store : Store) (term : QueryTerm) (tokenized : Bool) :
    (forTerm term tokenized).Sound store :=
  fun _ member => (List.mem_filter.mp member).1

/-- What is found in rows does not depend on how far the scan has come. -/
theorem foundIn_withRows (scan : TermScan) (rows : Scan Key Nat) (listed : List (Key × Nat)) :
    foundIn { scan with rows } typeName listed = scan.foundIn typeName listed := by
  induction listed with
  | nil => rfl
  | cons row rest ih =>
      unfold foundIn
      rw [ih]
      rfl

/-- Testing an entry never fails; only reading one could. -/
theorem test_ne_failed (scan : TermScan) (typeName : Option String) (entry : IndexEntry)
    (cause : Error) : scan.test typeName entry ≠ .failed cause := by
  unfold test
  split
  · exact nofun
  · split
    · split
      all_goals exact nofun
    · exact nofun
    · split
      all_goals exact nofun

/-- A step reads a row and says what it comes to.  It fails only where a key of
the index cannot be read. -/
theorem step_spec (typeName : Option String) (positive : 0 < batch)
    {scan : TermScan} (sound : scan.Sound store) :
    match scan.step batch store typeName with
    | (.found id, after) => scan.upcoming store typeName = id :: after.upcoming store typeName ∧
        after.Sound store
    | (.passed, after) => scan.upcoming store typeName = after.upcoming store typeName ∧
        after.Sound store
    | (.finished, _) => scan.upcoming store typeName = []
    | (.failed _, _) => scan.upcoming store typeName = [] ∧ ¬ Readable store := by
  have next := Scan.next_spec positive (store.index scan.order) scan.rows
  unfold step
  split at next
  · rename_i rows isNext
    rw [isNext]
    dsimp only
    unfold upcoming
    rw [next]
    rfl
  · rename_i row rows isNext
    rw [isNext]
    dsimp only
    have isRow : row ∈ (store.index scan.order).rows := by
      apply sound row
      rw [next]
      exact List.mem_cons_self
    have soundAfter : Sound store { scan with rows } := by
      intro later member
      apply sound later
      rw [next]
      exact List.mem_cons_of_mem row member
    have same : foundIn { scan with rows } typeName (rows.rest (store.index scan.order)) =
        scan.foundIn typeName (rows.rest (store.index scan.order)) :=
      foundIn_withRows scan rows _
    have upcomingHere : scan.upcoming store typeName =
        match IndexEntry.ofKey? scan.order row.1 with
        | .error _ => []
        | .ok entry =>
            match scan.test typeName entry with
            | .found id => id :: upcoming store typeName { scan with rows }
            | .passed => upcoming store typeName { scan with rows }
            | .finished => []
            | .failed _ => [] := by
      unfold upcoming
      rw [next, foundIn, same]
    rw [upcomingHere]
    cases isEntry : IndexEntry.ofKey? scan.order row.1 with
    | error cause =>
        refine ⟨rfl, fun readable => ?_⟩
        rcases readable scan.order row isRow with ⟨entry, isRead⟩
        cases isEntry.symm.trans isRead
    | ok entry =>
        dsimp only
        cases tested : scan.test typeName entry with
        | found id => exact ⟨rfl, soundAfter⟩
        | passed => exact ⟨rfl, soundAfter⟩
        | finished => rfl
        | failed cause => exact absurd tested (test_ne_failed scan typeName entry cause)

/-! ## What is found in rows -/

variable {scan : TermScan}

/-- An entry of a record of the type is found when it satisfies the term. -/
theorem test_eq_found_iff {entry : IndexEntry} {id : String} :
    scan.test typeName entry = .found id ↔
      scan.term.acceptsPath entry.path = true ∧
        scan.term.leaf.verdict scan.tokenized entry.leaf = .matched ∧
          hasType typeName entry.id = true ∧ entry.id = id := by
  unfold test
  cases scan.term.acceptsPath entry.path with
  | false => exact ⟨nofun, nofun⟩
  | true =>
      rw [if_neg (by decide)]
      cases scan.term.leaf.verdict scan.tokenized entry.leaf with
      | unmatched => exact ⟨nofun, nofun⟩
      | done =>
          cases scan.stopsWhenDone with
          | false => exact ⟨nofun, nofun⟩
          | true => exact ⟨nofun, nofun⟩
      | matched =>
          cases hasType typeName entry.id with
          | false => exact ⟨nofun, nofun⟩
          | true =>
              constructor
              · intro found
                cases found
                exact ⟨rfl, rfl, rfl, rfl⟩
              · rintro ⟨_, _, _, rfl⟩
                rfl

/-- Only a scan that may stop is finished by an entry. -/
theorem done_of_test_eq_finished {entry : IndexEntry}
    (finished : scan.test typeName entry = .finished) :
    scan.stopsWhenDone = true ∧ scan.term.acceptsPath entry.path = true ∧
      scan.term.leaf.verdict scan.tokenized entry.leaf = .done := by
  unfold test at finished
  cases accepts : scan.term.acceptsPath entry.path with
  | false =>
      rw [accepts] at finished
      cases finished
  | true =>
      rw [accepts, if_neg (by decide)] at finished
      cases verdict : scan.term.leaf.verdict scan.tokenized entry.leaf with
      | matched =>
          rw [verdict] at finished
          dsimp only at finished
          split at finished
          all_goals cases finished
      | unmatched =>
          rw [verdict] at finished
          cases finished
      | done =>
          rw [verdict] at finished
          dsimp only at finished
          split at finished
          · rename_i stops
            exact ⟨stops, rfl, rfl⟩
          · cases finished

/-- What is found in rows is found by one of them. -/
theorem exists_of_mem_foundIn {rows : List (Key × Nat)} {id : String}
    (found : id ∈ scan.foundIn typeName rows) :
    ∃ row ∈ rows, ∃ entry, IndexEntry.ofKey? scan.order row.1 = .ok entry ∧
      scan.test typeName entry = .found id := by
  induction rows with
  | nil => cases found
  | cons row rest ih =>
      have later (found : id ∈ scan.foundIn typeName rest) :
          ∃ row' ∈ row :: rest, ∃ entry, IndexEntry.ofKey? scan.order row'.1 = .ok entry ∧
            scan.test typeName entry = .found id := by
        rcases ih found with ⟨row', member, isFound⟩
        exact ⟨row', List.mem_cons_of_mem _ member, isFound⟩
      unfold foundIn at found
      split at found
      · cases found
      · rename_i entry isEntry
        split at found
        · rename_i id' isFound
          rcases List.mem_cons.mp found with rfl | found
          · exact ⟨row, List.mem_cons_self, entry, isEntry, isFound⟩
          · exact later found
        · exact later found
        · cases found
        · cases found

/-- A row is found unless one before it finishes the scan. -/
theorem mem_foundIn_of_row {rows : List (Key × Nat)} (ascending : Rows.Ascending rows)
    (readable : ∀ row ∈ rows, ∃ entry, IndexEntry.ofKey? scan.order row.1 = .ok entry)
    {row : Key × Nat} (isRow : row ∈ rows) {entry : IndexEntry}
    (isEntry : IndexEntry.ofKey? scan.order row.1 = .ok entry) {id : String}
    (found : scan.test typeName entry = .found id)
    (unfinished : ∀ before ∈ rows, compare before.1 row.1 = .lt -> forall earlier,
      IndexEntry.ofKey? scan.order before.1 = .ok earlier ->
        scan.test typeName earlier ≠ .finished) :
    id ∈ scan.foundIn typeName rows := by
  induction rows with
  | nil => cases isRow
  | cons first rest ih =>
      rcases List.pairwise_cons.mp ascending with ⟨isFirst, ascending⟩
      unfold foundIn
      rcases List.mem_cons.mp isRow with rfl | isLater
      · rw [isEntry]
        dsimp only
        rw [found]
        exact List.mem_cons_self
      · have isFound := ih ascending (fun row member => readable row (List.mem_cons_of_mem _ member))
          isLater (fun before member => unfinished before (List.mem_cons_of_mem _ member))
        rcases readable first List.mem_cons_self with ⟨earlier, isEarlier⟩
        have goesOn := unfinished first List.mem_cons_self (isFirst row isLater) earlier isEarlier
        rw [isEarlier]
        dsimp only
        split
        · exact List.mem_cons_of_mem _ isFound
        · exact isFound
        · rename_i finished
          exact absurd finished goesOn
        · rename_i cause failed
          exact absurd failed (test_ne_failed scan typeName earlier cause)

/-! ## Outcomes -/

/-- The records that a scan found in order, and the error that ended it, if one
did. -/
structure Outcome where
  found : List String
  failure : Option Error

/-- Read a scan to its end. -/
def outcome (batch : Nat) (store : Store) (typeName : Option String) (scan : TermScan) :
    Outcome :=
  match _isStep : scan.step batch store typeName with
  | (.found id, after) =>
      let later := outcome batch store typeName after
      { later with found := id :: later.found }
  | (.passed, after) => outcome batch store typeName after
  | (.finished, _) => ⟨[], none⟩
  | (.failed cause, _) => ⟨[], some cause⟩
termination_by scan.remaining store
decreasing_by
  all_goals exact remaining_step_lt _isStep nofun

theorem outcome_eq {scan after : TermScan} {result : RowResult}
    (isStep : scan.step batch store typeName = (result, after)) :
    scan.outcome batch store typeName =
      match result with
      | .found id =>
          { after.outcome batch store typeName with
            found := id :: (after.outcome batch store typeName).found }
      | .passed => after.outcome batch store typeName
      | .finished => ⟨[], none⟩
      | .failed cause => ⟨[], some cause⟩ := by
  conv =>
    lhs
    unfold outcome
  split
  all_goals
    rename_i taken
    cases isStep.symm.trans taken
    rfl

/-- What a scan finds is what it makes of the rows to come, and it fails only
where a key of the index cannot be read. -/
theorem outcome_spec (typeName : Option String) (positive : 0 < batch) {scan : TermScan}
    (sound : scan.Sound store) :
    (scan.outcome batch store typeName).found = scan.upcoming store typeName ∧
      (Readable store -> (scan.outcome batch store typeName).failure = none) := by
  induction scan using outcome.induct batch store typeName with
  | case1 scan id after isStep ih =>
      have read := step_spec typeName positive sound
      rw [isStep] at read
      rcases ih read.2 with ⟨found, unfailing⟩
      rw [outcome_eq isStep, read.1]
      exact ⟨congrArg (id :: ·) found, unfailing⟩
  | case2 scan after isStep ih =>
      have read := step_spec typeName positive sound
      rw [isStep] at read
      rw [outcome_eq isStep, read.1]
      exact ih read.2
  | case3 scan after isStep =>
      have read := step_spec typeName positive sound
      rw [isStep] at read
      rw [outcome_eq isStep, read]
      exact ⟨rfl, fun _ => rfl⟩
  | case4 scan cause after isStep =>
      have read := step_spec typeName positive sound
      rw [isStep] at read
      rw [outcome_eq isStep, read.1]
      exact ⟨rfl, fun readable => absurd readable read.2⟩

theorem found_outcome_forTerm (positive : 0 < batch) (store : Store) (typeName : Option String)
    (term : QueryTerm) (tokenized : Bool) :
    ((forTerm term tokenized).outcome batch store typeName).found =
      finds store typeName tokenized term :=
  (outcome_spec typeName positive (sound_forTerm store term tokenized)).1

end TermScan

end RecordIndex
