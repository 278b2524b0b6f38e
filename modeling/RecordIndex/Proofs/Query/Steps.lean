import RecordIndex.Proofs.Query.Counting

namespace RecordIndex

/-!
# Steps of a search

A step hands out a record that waits, opens or reads the scan of the term in
turn, or ends the phase.  None of this changes what is still owed.  And as long
as no scan fails, the terms behind which the search has come were scanned
without a failure, while some record was found by all of them.
-/

namespace IndexMatches

variable {batch : Nat} {store : Store} {search after : IndexMatches} {progress : Progress Nat}

/-- What one step of a search without a fallback can be. -/
inductive Moves (batch : Nat) (store : Store) (search : IndexMatches) :
    Progress Nat -> IndexMatches -> Prop where
  | hands {candidate : Candidate Nat} {rest : List (Candidate Nat)}
      (waits : search.pending = candidate :: rest) :
      Moves batch store search (.yields candidate) { search with pending := rest }
  | rests (nothing : search.pending = []) (ended : search.done = true) :
      Moves batch store search .ends search
  | stops (nothing : search.pending = []) (running : search.done = false)
      (noTerm : search.terms[search.phase]? = none) :
      Moves batch store search .ends { search with done := true }
  | opens {term : QueryTerm} (nothing : search.pending = []) (running : search.done = false)
      (noScan : search.scan = none) (isTerm : search.terms[search.phase]? = some term) :
      Moves batch store search .continues
        { search with scan := some (.forTerm term search.tokenized) }
  | finds {scan later : TermScan} {id : String} (nothing : search.pending = [])
      (running : search.done = false) (isScan : search.scan = some scan)
      (reads : scan.step batch store search.typeName = (.found id, later)) :
      Moves batch store search .continues (credit { search with scan := some later } id)
  | passes {scan later : TermScan} (nothing : search.pending = []) (running : search.done = false)
      (isScan : search.scan = some scan)
      (reads : scan.step batch store search.typeName = (.passed, later)) :
      Moves batch store search .continues { search with scan := some later }
  | finishes {scan later : TermScan} (nothing : search.pending = [])
      (running : search.done = false) (isScan : search.scan = some scan)
      (reads : scan.step batch store search.typeName = (.finished, later)) :
      Moves batch store search .continues search.endPhase
  | fails {scan later : TermScan} {cause : Error} (isScan : search.scan = some scan)
      (reads : scan.step batch store search.typeName = (.failed cause, later)) :
      Moves batch store search (.fails cause) { search with scan := some later, done := true }

theorem moves_of_step (noFallback : search.fallback = none)
    (isStep : search.step batch store = (progress, after)) :
    search.Moves batch store progress after := by
  unfold step at isStep
  split at isStep
  · rename_i candidate rest waits
    cases isStep
    exact .hands waits
  · rename_i nothing
    split at isStep
    · rename_i ended
      cases isStep
      exact .rests nothing ended
    · rename_i running
      have running : search.done = false := Bool.eq_false_iff.mpr running
      split at isStep
      · rename_i isFallback
        rw [noFallback] at isFallback
        cases isFallback
      · rename_i scan _ isScan
        unfold stepScan at isStep
        split at isStep
        · rename_i reads
          cases isStep
          exact .finds nothing running isScan reads
        · rename_i reads
          cases isStep
          exact .passes nothing running isScan reads
        · rename_i reads
          cases isStep
          exact .finishes nothing running isScan reads
        · rename_i reads
          cases isStep
          exact .fails isScan reads
      · rename_i noScan
        split at isStep
        · rename_i isTerm
          cases isStep
          exact .opens nothing running noScan isTerm
        · rename_i noTerm
          cases isStep
          exact .stops nothing running noTerm

/-! ## Where nothing waits -/

theorem step_of_done (nothing : search.pending = []) (ended : search.done = true) :
    search.step batch store = (.ends, search) := by
  rw [step, nothing]
  exact if_pos ended

theorem step_of_fallback (nothing : search.pending = []) (running : search.done = false)
    {records : Scan String StoredRecord} (isFallback : search.fallback = some records) :
    search.step batch store = search.stepFallback batch store records := by
  rw [step, nothing]
  simp [running, isFallback]

theorem step_of_scan (nothing : search.pending = []) (running : search.done = false)
    (noFallback : search.fallback = none) {scan : TermScan} (isScan : search.scan = some scan) :
    search.step batch store = search.stepScan batch store scan := by
  rw [step, nothing]
  simp [running, noFallback, isScan]

theorem step_of_term (nothing : search.pending = []) (running : search.done = false)
    (noFallback : search.fallback = none) (noScan : search.scan = none) {term : QueryTerm}
    (isTerm : search.terms[search.phase]? = some term) :
    search.step batch store =
      (.continues, { search with scan := some (.forTerm term search.tokenized) }) := by
  rw [step, nothing]
  simp [running, noFallback, noScan, isTerm]

theorem step_of_noTerm (nothing : search.pending = []) (running : search.done = false)
    (noFallback : search.fallback = none) (noScan : search.scan = none)
    (noTerm : search.terms[search.phase]? = none) :
    search.step batch store = (.ends, { search with done := true }) := by
  rw [step, nothing]
  simp [running, noFallback, noScan, noTerm]

/-! ## What is asked for -/

/-- What of a search stays the same: what is asked for. -/
def asked (search : IndexMatches) : List QueryTerm × Option String × Bool :=
  (search.terms, search.typeName, search.tokenized)

theorem asked_emit (search : IndexMatches) (id : String) (score : Nat) :
    (search.emit id score).asked = search.asked := by
  rcases emit_eq search id score with ⟨yielded, pending, isEmit⟩
  rw [isEmit]
  rfl

theorem asked_foldl_emit (rows : List (String × Nat)) (search : IndexMatches) :
    (rows.foldl (fun search row => search.emit row.1 row.2) search).asked = search.asked := by
  induction rows generalizing search with
  | nil => rfl
  | cons row rest ih => exact (ih _).trans (asked_emit search row.1 row.2)

theorem asked_credit (search : IndexMatches) (id : String) :
    (search.credit id).asked = search.asked := by
  rcases search.credit_eq id with isCredit | ⟨credited, counts, isCredit | isCredit⟩
  · rw [isCredit]
  · rw [isCredit]
    rfl
  · rw [isCredit, asked_emit]
    rfl

theorem asked_endPhase (search : IndexMatches) : search.endPhase.asked = search.asked := by
  change search.dropFallen.asked = _
  rw [dropFallen_eq, asked_foldl_emit]
  rfl

theorem Moves.asked (moves : search.Moves batch store progress after) :
    after.asked = search.asked := by
  cases moves with
  | finds nothing running isScan reads => exact asked_credit _ _
  | finishes nothing running isScan reads => exact asked_endPhase search
  | _ => rfl

theorem leading_of_asked (asked : after.asked = search.asked) (id : String) :
    after.leading store id = search.leading store id := by
  rcases Prod.mk.inj asked with ⟨terms, rest⟩
  rcases Prod.mk.inj rest with ⟨typeName, tokenized⟩
  unfold leading
  rw [terms, typeName, tokenized]

/-! ## What is owed -/

/-- What is known of a search between two steps. -/
structure Tracks (store : Store) (search : IndexMatches) : Prop where
  noFallback : search.fallback = none
  fresh : search.Fresh
  running : search.done = false -> search.Knows store ∧ search.Scans store
  settled : search.done = true -> forall candidate, search.Deserves store candidate ->
    candidate.id ∈ search.yielded

theorem tracks_endPhase (noFallback : search.fallback = none) (knows : search.Knows store)
    (complete : search.Complete store) : search.endPhase.Tracks store := by
  have emitted := emitted_dropFallen knows complete
  have owes := fun candidate : Candidate Nat =>
    fun deserves : search.Deserves store candidate => owes_dropFallen knows complete deserves
  have counts := counts_erased knows complete
  have fresh := emitted.fresh knows.fresh
  unfold endPhase
  dsimp only
  rcases emitted.elsewhere with ⟨yielded, pending, same⟩
  rw [same] at owes fresh ⊢
  refine ⟨noFallback, fresh, ?_, ?_⟩
  · intro running
    have running : (decide (search.terms.length ≤ search.phase + 1) ||
      (search.counts.eraseAll (search.fallenOut.map Prod.fst)).isEmpty) = false := running
    have inPlace := of_decide_eq_false (Bool.or_eq_false_iff.mp running).1
    refine ⟨⟨Nat.lt_of_not_le inPlace, counts, fresh, ?_⟩, rfl⟩
    intro candidate deserves notYielded
    exact ⟨(owes candidate deserves notYielded).1, fun _ => nofun⟩
  · intro ended candidate deserves
    apply Decidable.byContradiction
    intro notYielded
    have deserves : search.Deserves store candidate := deserves
    rcases owes candidate deserves notYielded with ⟨goesOn, notLast⟩
    have inPlace := knows.inPlace
    rcases Bool.or_eq_true_iff.mp ended with behind | nothing
    · have behind : search.terms.length ≤ search.phase + 1 := of_decide_eq_true behind
      omega
    · have atMost := (isEmpty_erased_iff knows complete).mp nothing candidate.id
      have run := deserves.1
      omega

theorem owed_endPhase (knows : search.Knows store) (complete : search.Complete store)
    (candidate : Candidate Nat) :
    search.endPhase.Owed store candidate ↔ search.Owed store candidate := by
  have emitted := emitted_dropFallen knows complete
  have owed := emitted.owed candidate
  unfold endPhase
  dsimp only
  rcases emitted.elsewhere with ⟨yielded, pending, same⟩
  rw [same] at owed ⊢
  exact owed

/-- How far a scan has come is nothing that the counts depend on. -/
theorem Knows.withScan (knows : search.Knows store) (scan : Option TermScan) :
    Knows store { search with scan } :=
  ⟨knows.inPlace, knows.counts, knows.fresh, knows.owes⟩

/-- What one step of a search comes to. -/
def Advances (store : Store) (search : IndexMatches) (step : Progress Nat × IndexMatches) : Prop :=
  match step with
  | (.yields candidate, after) =>
      ∃ rest, search.pending = candidate :: rest ∧ after = { search with pending := rest }
  | (.continues, after) =>
      after.Tracks store ∧ forall candidate, after.Owed store candidate ↔ search.Owed store candidate
  | (.fails _, _) => False
  | (.ends, _) => forall candidate, ¬ search.Owed store candidate

/-- Once its scan is finished, a phase has found all that it can. -/
theorem Scans.complete (positive : 0 < batch) (scans : search.Scans store) {scan later : TermScan}
    (isScan : search.scan = some scan)
    (reads : scan.step batch store search.typeName = (.finished, later)) :
    search.Complete store := by
  unfold Scans at scans
  rw [isScan] at scans
  rcases scans with ⟨sound, term, isTerm, found⟩
  have read := TermScan.step_spec search.typeName positive sound
  rw [reads] at read
  refine ⟨term, isTerm, fun id => ?_⟩
  rw [found, read]
  exact ⟨fun either => either.resolve_right nofun, .inl⟩

theorem advances_found (positive : 0 < batch) (tracks : search.Tracks store)
    (running : search.done = false) {scan later : TermScan} {id : String}
    (isScan : search.scan = some scan)
    (reads : scan.step batch store search.typeName = (.found id, later)) :
    search.Advances store (.continues, credit { search with scan := some later } id) := by
  rcases tracks.running running with ⟨knows, scans⟩
  unfold Scans at scans
  rw [isScan] at scans
  rcases scans with ⟨sound, term, isTerm, found⟩
  have read := TermScan.step_spec search.typeName positive sound
  rw [reads] at read
  rcases read with ⟨upcoming, soundLater⟩
  have isFound : id ∈ TermScan.finds store search.typeName search.tokenized term := by
    rw [found, upcoming]
    exact .inr List.mem_cons_self
  rcases credited_credit (knows.withScan (some later)) isTerm isFound with
    ⟨⟨ids, counts, yielded, pending, same⟩, owed, knowsAfter, mem_credited⟩
  change Tracks store (credit { search with scan := some later } id) ∧ _
  rw [same] at owed knowsAfter mem_credited ⊢
  refine ⟨⟨tracks.noFallback, knowsAfter.fresh,
    fun _ => ⟨knowsAfter, soundLater, term, isTerm, ?_⟩, ?_⟩, owed⟩
  · intro other
    have split : other ∈ ids ↔ other = id ∨ other ∈ search.credited := mem_credited other
    change _ ↔ other ∈ ids ∨ _
    rw [found, upcoming, List.mem_cons, split, or_assoc, or_left_comm]
  · intro ended
    exact absurd (running.symm.trans ended) Bool.false_ne_true

theorem advances_passed (positive : 0 < batch) (tracks : search.Tracks store)
    (running : search.done = false) {scan later : TermScan} (isScan : search.scan = some scan)
    (reads : scan.step batch store search.typeName = (.passed, later)) :
    search.Advances store (.continues, { search with scan := some later }) := by
  rcases tracks.running running with ⟨knows, scans⟩
  unfold Scans at scans
  rw [isScan] at scans
  rcases scans with ⟨sound, term, isTerm, found⟩
  have read := TermScan.step_spec search.typeName positive sound
  rw [reads] at read
  rcases read with ⟨upcoming, soundLater⟩
  refine ⟨⟨tracks.noFallback, knows.fresh,
    fun _ => ⟨knows.withScan _, soundLater, term, isTerm, ?_⟩, ?_⟩, fun _ => Iff.rfl⟩
  · intro other
    rw [← upcoming]
    exact found other
  · intro ended
    exact absurd (running.symm.trans ended) Bool.false_ne_true

theorem advances_opened (tracks : search.Tracks store) (running : search.done = false)
    (noScan : search.scan = none) {term : QueryTerm}
    (isTerm : search.terms[search.phase]? = some term) :
    search.Advances store
      (.continues, { search with scan := some (.forTerm term search.tokenized) }) := by
  rcases tracks.running running with ⟨knows, scans⟩
  unfold Scans at scans
  rw [noScan] at scans
  refine ⟨⟨tracks.noFallback, tracks.fresh, fun _ => ⟨knows.withScan _,
    TermScan.sound_forTerm store _ _, term, isTerm, fun id => ?_⟩, tracks.settled⟩,
    fun _ => Iff.rfl⟩
  change _ ↔ id ∈ search.credited ∨ _
  rw [scans]
  exact ⟨.inr, fun either => either.resolve_left nofun⟩

/-- A step that does not fail yields what waits, ends when nothing is owed, or
leaves what is owed as it was. -/
theorem Moves.advances (moves : search.Moves batch store progress after) (positive : 0 < batch)
    (tracks : search.Tracks store) (goesOn : forall cause, progress ≠ .fails cause) :
    search.Advances store (progress, after) := by
  cases moves with
  | hands waits => exact ⟨_, waits, rfl⟩
  | rests nothing ended =>
      rintro candidate (waits | ⟨deserves, notYielded⟩)
      · rw [nothing] at waits
        cases waits
      · exact notYielded (tracks.settled ended candidate deserves)
  | stops nothing running noTerm =>
      rw [List.getElem?_eq_getElem (tracks.running running).1.inPlace] at noTerm
      cases noTerm
  | opens nothing running noScan isTerm => exact advances_opened tracks running noScan isTerm
  | finds nothing running isScan reads => exact advances_found positive tracks running isScan reads
  | passes nothing running isScan reads => exact advances_passed positive tracks running isScan reads
  | finishes nothing running isScan reads =>
      rcases tracks.running running with ⟨knows, scans⟩
      have complete := scans.complete positive isScan reads
      exact ⟨tracks_endPhase tracks.noFallback knows complete, owed_endPhase knows complete⟩
  | fails isScan reads => exact absurd rfl (goesOn _)

/-- What waits is taken from the front. -/
theorem Tracks.takePending (tracks : search.Tracks store) {candidate : Candidate Nat}
    {rest : List (Candidate Nat)} (isPending : search.pending = candidate :: rest) :
    Tracks store { search with pending := rest } := by
  have fresh := tracks.fresh
  unfold Fresh at fresh
  rw [isPending] at fresh
  have freshAfter : Fresh { search with pending := rest } :=
    ⟨(List.nodup_cons.mp fresh.1).2,
      fun other member => fresh.2 other (List.mem_cons_of_mem candidate member)⟩
  refine ⟨tracks.noFallback, freshAfter, fun running => ?_, tracks.settled⟩
  rcases tracks.running running with ⟨knows, scans⟩
  exact ⟨⟨knows.inPlace, knows.counts, freshAfter, knows.owes⟩, scans⟩


/-! ## What fails -/

/-- The error that the scan of a term ends with, if one does. -/
def failure (batch : Nat) (store : Store) (search : IndexMatches) (term : QueryTerm) :
    Option Error :=
  ((TermScan.forTerm term search.tokenized).outcome batch store search.typeName).failure

/-- Some record is found by all the terms in front of this place. -/
def IsReached (store : Store) (search : IndexMatches) (place : Nat) : Prop :=
  ∃ id, place ≤ search.leading store id

/-- No term that the search comes to fails. -/
def Unfailing (batch : Nat) (store : Store) (search : IndexMatches) : Prop :=
  forall (place : Nat) (term : QueryTerm), search.terms[place]? = some term ->
    search.IsReached store place -> search.failure batch store term = none

/-- What a search knows of the failures of its terms, as long as it has come
upon none. -/
structure Reports (batch : Nat) (store : Store) (search : IndexMatches) : Prop where
  behind : forall (place : Nat) (term : QueryTerm), place < search.phase ->
    search.terms[place]? = some term -> search.failure batch store term = none
  here : forall scan, search.scan = some scan -> search.IsReached store search.phase ∧
    ∃ term, search.terms[search.phase]? = some term ∧
      (scan.outcome batch store search.typeName).failure = search.failure batch store term
  running : search.done = false -> search.IsReached store search.phase
  settled : search.done = true -> search.Unfailing batch store

theorem failure_of_asked (asked : after.asked = search.asked) (term : QueryTerm) :
    after.failure batch store term = search.failure batch store term := by
  rcases Prod.mk.inj asked with ⟨_, rest⟩
  rcases Prod.mk.inj rest with ⟨typeName, tokenized⟩
  unfold failure
  rw [typeName, tokenized]

theorem isReached_of_asked (asked : after.asked = search.asked) (place : Nat) :
    after.IsReached store place ↔ search.IsReached store place := by
  unfold IsReached
  simp only [leading_of_asked asked]

theorem unfailing_of_asked (asked : after.asked = search.asked) :
    after.Unfailing batch store ↔ search.Unfailing batch store := by
  unfold Unfailing
  simp only [isReached_of_asked asked, failure_of_asked asked, (Prod.mk.inj asked).1]

/-- A phase is the last one if it was that of the last term, or if no run goes
on. -/
theorem done_endPhase_iff (knows : search.Knows store) (complete : search.Complete store) :
    search.endPhase.done = true ↔ search.terms.length ≤ search.phase + 1 ∨
      forall id, search.leading store id ≤ search.phase := by
  rcases (emitted_dropFallen knows complete).elsewhere with ⟨yielded, pending, same⟩
  rw [← isEmpty_erased_iff knows complete, ← decide_eq_true_iff (p := _ ≤ _), ← Bool.or_eq_true]
  unfold endPhase
  dsimp only
  rw [same]
  exact Iff.rfl

/-- At the end of a phase, what was known of the terms before is known of this
one too. -/
theorem reports_endPhase (knows : search.Knows store) (complete : search.Complete store)
    (reports : search.Reports batch store)
    (unfailing : forall term, search.terms[search.phase]? = some term ->
      search.failure batch store term = none) : search.endPhase.Reports batch store := by
  have asked := asked_endPhase search
  have terms : search.endPhase.terms = search.terms := (Prod.mk.inj asked).1
  have place := place_dropFallen search
  have phase : search.endPhase.phase = search.phase + 1 := congrArg (· + 1) place.2
  have behind : forall (place : Nat) (term : QueryTerm), place < search.phase + 1 ->
      search.terms[place]? = some term -> search.failure batch store term = none := by
    intro place term isBehind isTerm
    rcases Nat.lt_or_eq_of_le (Nat.le_of_lt_succ isBehind) with before | rfl
    · exact reports.behind place term before isTerm
    · exact unfailing term isTerm
  have ends := done_endPhase_iff knows complete
  constructor
  · intro place term isBehind isTerm
    rw [phase] at isBehind
    rw [terms] at isTerm
    rw [failure_of_asked asked]
    exact behind place term isBehind isTerm
  · intro scan isScan
    cases isScan
  · intro running
    rw [isReached_of_asked asked, phase]
    apply Classical.byContradiction
    intro unreached
    have nothing (id : String) : search.leading store id ≤ search.phase :=
      Nat.le_of_not_lt fun goesOn => unreached ⟨id, goesOn⟩
    exact Bool.false_ne_true (running.symm.trans (ends.mpr (.inr nothing)))
  · intro ended
    rw [unfailing_of_asked asked]
    rintro place term isTerm ⟨id, reached⟩
    refine behind place term ?_ isTerm
    have inPlace := (List.getElem?_eq_some_iff.mp isTerm).1
    rcases ends.mp ended with last | nothing
    · omega
    · exact Nat.lt_succ_of_le (Nat.le_trans reached (nothing id))

/-- Reading a row tells nothing new of the failure of a scan. -/
theorem Reports.withScan (reports : search.Reports batch store) {scan later : TermScan}
    (isScan : search.scan = some scan)
    (same : (scan.outcome batch store search.typeName).failure =
      (later.outcome batch store search.typeName).failure) :
    Reports batch store { search with scan := some later } := by
  refine ⟨reports.behind, fun other isOther => ?_, reports.running, reports.settled⟩
  cases isOther
  rcases reports.here scan isScan with ⟨reached, term, isTerm, fails⟩
  exact ⟨reached, term, isTerm, same.symm.trans fails⟩

theorem Reports.credit (reports : search.Reports batch store) (id : String) :
    (search.credit id).Reports batch store := by
  rcases search.credit_eq id with isCredit | ⟨credited, counts, isCredit | isCredit⟩
  · rw [isCredit]
    exact reports
  · rw [isCredit]
    exact ⟨reports.behind, reports.here, reports.running, reports.settled⟩
  · rcases emit_eq { search with credited, counts } id (search.phase + 1) with
      ⟨yielded, pending, isEmit⟩
    rw [isCredit, isEmit]
    exact ⟨reports.behind, reports.here, reports.running, reports.settled⟩

/-- A step that does not fail leaves what is known of failures true. -/
theorem Moves.reports (moves : search.Moves batch store progress after) (positive : 0 < batch)
    (tracks : search.Tracks store) (reports : search.Reports batch store)
    (goesOn : forall cause, progress ≠ .fails cause) : after.Reports batch store := by
  cases moves with
  | hands waits => exact ⟨reports.behind, reports.here, reports.running, reports.settled⟩
  | rests nothing ended => exact reports
  | stops nothing running noTerm =>
      rw [List.getElem?_eq_getElem (tracks.running running).1.inPlace] at noTerm
      cases noTerm
  | opens nothing running noScan isTerm =>
      refine ⟨reports.behind, fun scan isScan => ?_, reports.running, reports.settled⟩
      cases isScan
      exact ⟨reports.running running, _, isTerm, rfl⟩
  | finds nothing running isScan reads =>
      exact (reports.withScan isScan (by rw [TermScan.outcome_eq reads])).credit _
  | passes nothing running isScan reads =>
      exact reports.withScan isScan (by rw [TermScan.outcome_eq reads])
  | finishes nothing running isScan reads =>
      rcases tracks.running running with ⟨knows, scans⟩
      rcases reports.here _ isScan with ⟨_, term, isTerm, fails⟩
      rw [TermScan.outcome_eq reads] at fails
      refine reports_endPhase knows (scans.complete positive isScan reads) reports ?_
      intro term' isTerm'
      cases isTerm.symm.trans isTerm'
      exact fails.symm
  | fails isScan reads => exact absurd rfl (goesOn _)

end IndexMatches

end RecordIndex
