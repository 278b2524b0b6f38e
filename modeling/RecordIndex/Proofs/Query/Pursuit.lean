import RecordIndex.Proofs.Query.Awaiting
import RecordIndex.Proofs.Query.Search

namespace RecordIndex

/-!
# Searching a changing store

A strict search owes every record that holds an answer to each of its terms, as
long as the entries of these answers stay where they are.  Whatever else
becomes of the store between two steps, the record is counted in every phase
and yielded at the last one, and no record is yielded twice.
-/

namespace IndexMatches

variable {batch : Nat} {store : Store} {search after : IndexMatches} {progress : Progress Nat}

/-! ## Strict searches -/

/-- A strict search drops what falls out. -/
theorem dropFallen_of_notRanked (notRanked : search.ranked = false) :
    search.dropFallen = search.withoutFallen := by
  rw [dropFallen_eq, notRanked]
  rfl

theorem endPhase_eq (notRanked : search.ranked = false) : ∃ done,
    search.endPhase = { search.withoutFallen with
      scan := none, credited := [], phase := search.phase + 1, done } := by
  unfold endPhase
  rw [dropFallen_of_notRanked notRanked]
  exact ⟨_, rfl⟩

/-- A strict search that has handed out these candidates so far. -/
structure Strict (handed : List (Candidate Nat)) (search : IndexMatches) : Prop where
  noFallback : search.fallback = none
  notRanked : search.ranked = false
  anyScore : search.minScore = 0
  /-- No record waits twice, nor one that was handed out. -/
  fresh : Fresh { search with pending := handed ++ search.pending }
  underway : ∀ scan ∈ search.scan, ∃ term, search.terms[search.phase]? = some term ∧
    scan.Underway term search.tokenized

variable {handed : List (Candidate Nat)}

theorem Strict.emit (strict : search.Strict handed) (id : String) (score : Nat) :
    (search.emit id score).Strict handed := by
  have fresh := strict.fresh.emit id score
  unfold IndexMatches.emit at fresh ⊢
  split
  · rename_i yields
    refine ⟨strict.noFallback, strict.notRanked, strict.anyScore, ?_, strict.underway⟩
    dsimp only at fresh
    rw [if_pos yields, List.append_assoc] at fresh
    exact fresh
  · exact strict

theorem Strict.credit (strict : search.Strict handed) (id : String) :
    (search.credit id).Strict handed ∧ (search.credit id).asked = search.asked := by
  have same : search.Strict handed ∧ search.asked = search.asked := ⟨strict, rfl⟩
  rcases search.credit_eq id with isCredit | ⟨credited, counts, isCredit | isCredit⟩
  · rw [isCredit]
    exact same
  · rw [isCredit]
    exact ⟨⟨strict.noFallback, strict.notRanked, strict.anyScore, strict.fresh, strict.underway⟩,
      rfl⟩
  · have counted : Strict handed { search with credited, counts } :=
      ⟨strict.noFallback, strict.notRanked, strict.anyScore, strict.fresh, strict.underway⟩
    rw [isCredit]
    refine ⟨counted.emit id _, ?_⟩
    rcases emit_eq { search with credited, counts } id (search.phase + 1) with
      ⟨yielded, pending, isEmit⟩
    rw [isEmit]
    rfl

/-- The search is strict behind a step that has come to this. -/
def StaysStrict (handed : List (Candidate Nat)) (progress : Progress Nat)
    (after : IndexMatches) : Prop :=
  match progress with
  | .yields candidate => after.Strict (handed ++ [candidate])
  | .fails _ => False
  | .continues | .ends => after.Strict handed

/-- A step of a strict search hands out a new record, goes on or ends, and asks
for the same as before. -/
theorem Strict.moves (strict : search.Strict handed) (legible : store.IsLegible)
    (moves : search.Moves batch store progress after) :
    after.asked = search.asked ∧ StaysStrict handed progress after := by
  rcases strict with ⟨noFallback, notRanked, anyScore, fresh, underway⟩
  have goesOn {scan later : TermScan} {result : RowResult} (isScan : search.scan = some scan)
      (reads : scan.step batch store search.typeName = (result, later)) :
      Strict handed { search with scan := some later } ∧ forall cause, result ≠ .failed cause := by
    rcases underway scan isScan with ⟨term, isTerm, isUnderway⟩
    rcases isUnderway.step legible reads with ⟨isUnderway, notFailed⟩
    refine ⟨⟨noFallback, notRanked, anyScore, fresh, fun scan isScan => ?_⟩, notFailed⟩
    cases isScan
    exact ⟨term, isTerm, isUnderway⟩
  cases moves with
  | hands waits =>
      refine ⟨rfl, noFallback, notRanked, anyScore, ?_, underway⟩
      rw [waits] at fresh
      rw [List.append_assoc]
      exact fresh
  | rests nothing ended => exact ⟨rfl, noFallback, notRanked, anyScore, fresh, underway⟩
  | stops nothing running noTerm =>
      exact ⟨rfl, noFallback, notRanked, anyScore, fresh, underway⟩
  | opens nothing running noScan isTerm =>
      refine ⟨rfl, noFallback, notRanked, anyScore, fresh, fun scan isScan => ?_⟩
      cases isScan
      exact ⟨_, isTerm, TermScan.underway_forTerm _ _⟩
  | finds nothing running isScan reads =>
      have credited := (goesOn isScan reads).1.credit
      exact ⟨(credited _).2, (credited _).1⟩
  | passes nothing running isScan reads => exact ⟨rfl, (goesOn isScan reads).1⟩
  | finishes nothing running isScan reads =>
      rcases endPhase_eq notRanked with ⟨done, isEnd⟩
      rw [isEnd]
      exact ⟨rfl, noFallback, notRanked, anyScore, fresh,
        fun scan isScan => absurd isScan (Option.not_mem_none scan)⟩
  | fails isScan reads => exact absurd rfl ((goesOn isScan reads).2 _)

/-! ## Records that are owed -/

/-- The record is one that the type allows and holds an answer to every term. -/
structure Meets (store : Store) (search : IndexMatches) (id : String) : Prop where
  isTyped : TermScan.hasType search.typeName id = true
  meets : ∀ term ∈ search.terms, ∃ held, term.MetBy search.tokenized store id held

/-- The record has been counted in every phase so far, and it is not settled by
the last one. -/
structure InTurn (search : IndexMatches) (id : String) : Prop where
  running : search.done = false
  inPlace : search.phase < search.terms.length
  notYielded : id ∉ search.yielded
  counted : search.counts.get? id =
    countAt search.phase search.phase (search.credited.contains id)
  goesOn : id ∈ search.credited -> search.phase + 1 ≠ search.terms.length

/-- In the phase in progress, the record has been counted or its answer is
still to be read. -/
structure Pursues (store : Store) (search : IndexMatches) (id : String) : Prop
    extends search.InTurn id where
  awaits : id ∉ search.credited -> ∀ scan ∈ search.scan, forall term,
    search.terms[search.phase]? = some term -> ∃ held, term.MetBy search.tokenized store id held ∧
      scan.rows.Awaits (held.key (term.plan search.tokenized).order id)

/-- The record waits to be yielded, or it will be found to be a match. -/
def Pends (store : Store) (search : IndexMatches) (id : String) : Prop :=
  (∃ candidate ∈ search.pending, candidate.id = id) ∨ search.Pursues store id

variable {id : String}

/-- Changes of other records do not concern this one. -/
theorem Meets.changes {later : Store} {written : List String} (meets : search.Meets store id)
    (changes : Store.Changes written store later) (spared : id ∉ written) :
    search.Meets later id := by
  refine ⟨meets.isTyped, fun term isTerm => ?_⟩
  rcases meets.meets term isTerm with ⟨held, met⟩
  exact ⟨held, met.changes changes spared⟩

theorem Pends.changes {later : Store} {written : List String} (pends : search.Pends store id)
    (changes : Store.Changes written store later) (spared : id ∉ written) :
    search.Pends later id := by
  refine pends.imp_right fun pursues => ⟨pursues.toInTurn, ?_⟩
  intro uncounted scan isScan term isTerm
  rcases pursues.awaits uncounted scan isScan term isTerm with ⟨held, met, awaits⟩
  exact ⟨held, met.changes changes spared, awaits⟩

/-! ## Nothing is lost -/

theorem countAt_self_credited (phase : Nat) : countAt phase phase true = some (phase + 1) := by
  unfold countAt
  rw [if_neg (Nat.lt_irrefl phase)]
  rfl

theorem InTurn.withScan (inTurn : search.InTurn id) (scan : Option TermScan) :
    InTurn { search with scan } id :=
  ⟨inTurn.running, inTurn.inPlace, inTurn.notYielded, inTurn.counted, inTurn.goesOn⟩

/-- Nothing is lost by how far the scan of the phase has come. -/
theorem Pursues.withScan (pursues : search.Pursues store id) {later : TermScan}
    (awaits : id ∉ search.credited -> forall term, search.terms[search.phase]? = some term ->
      ∃ held, term.MetBy search.tokenized store id held ∧
        later.rows.Awaits (held.key (term.plan search.tokenized).order id)) :
    Pursues store { search with scan := some later } id := by
  refine ⟨pursues.toInTurn.withScan (some later), fun uncounted scan isScan term isTerm => ?_⟩
  cases isScan
  exact awaits uncounted term isTerm

/-- Yielding another record does not concern this one. -/
theorem Pursues.emit_other (pursues : search.Pursues store id) {other : String}
    (different : other ≠ id) (score : Nat) : (search.emit other score).Pursues store id := by
  unfold IndexMatches.emit
  split
  · refine ⟨⟨pursues.running, pursues.inPlace, fun member => ?_, pursues.counted,
      pursues.goesOn⟩, pursues.awaits⟩
    rcases List.mem_cons.mp member with same | before
    · exact different same.symm
    · exact pursues.notYielded before
  · exact pursues

/-- Counting another record does not concern this one. -/
theorem Pursues.credit_other (pursues : search.Pursues store id) {other : String}
    (different : other ≠ id) : (search.credit other).Pursues store id := by
  have apart := contains_cons_of_ne (Ne.symm different) search.credited
  have mem_iff : id ∈ other :: search.credited ↔ id ∈ search.credited := by
    rw [List.mem_cons, or_iff_right (Ne.symm different)]
  have counted {counts : Table String Nat} (same : counts.get? id = search.counts.get? id) :
      Pursues store { search with credited := other :: search.credited, counts } id := by
    refine ⟨⟨pursues.running, pursues.inPlace, pursues.notYielded, ?_, ?_⟩, ?_⟩
    · change counts.get? id =
        countAt search.phase search.phase ((other :: search.credited).contains id)
      rw [same, apart]
      exact pursues.counted
    · exact fun member => pursues.goesOn (mem_iff.mp member)
    · exact fun absent => pursues.awaits (mt mem_iff.mpr absent)
  by_cases known : other ∈ search.credited
  · rw [credit_of_mem known]
    exact pursues
  · by_cases isCandidate : search.isCandidate other = true
    · have kept : (search.counted other).Pursues store id :=
        counted (Table.get?_insert_of_ne (Ne.symm different) search.counts (search.phase + 1))
      rw [credit_of_isCandidate known isCandidate]
      split
      · exact kept.emit_other different _
      · exact kept
    · rw [credit_of_fallen known isCandidate]
      exact counted rfl

/-- A record that is found in its turn is counted, and yielded if this was the
last term. -/
theorem InTurn.credit_self (inTurn : search.InTurn id) (anyScore : search.minScore = 0) :
    (search.credit id).Pends store id := by
  by_cases known : id ∈ search.credited
  · rw [credit_of_mem known]
    exact .inr ⟨inTurn, fun uncounted => absurd known uncounted⟩
  · have isCandidate : search.isCandidate id = true := by
      by_cases first : search.phase = 0
      · simp [IndexMatches.isCandidate, first]
      · have counted : search.counts.get? id = some search.phase := by
          simpa [countAt, known, first] using inTurn.counted
        simp [IndexMatches.isCandidate, counted]
    rw [credit_of_isCandidate known isCandidate]
    split
    · -- The last term: the record is yielded now.
      left
      have isNew : id ∉ (search.counted id).yielded := inTurn.notYielded
      have enough : (search.counted id).minScore ≤ search.phase + 1 :=
        Nat.le_trans (Nat.le_of_eq anyScore) (Nat.zero_le _)
      rw [emit_of_notMem isNew, if_pos enough]
      exact ⟨⟨id, search.phase + 1⟩, List.mem_append_right _ (List.mem_singleton.mpr rfl), rfl⟩
    · rename_i more
      right
      refine ⟨⟨inTurn.running, inTurn.inPlace, inTurn.notYielded, ?_, fun _ => more⟩, ?_⟩
      · change (search.counts.insert id (search.phase + 1)).get? id =
          countAt search.phase search.phase ((id :: search.credited).contains id)
        rw [Table.get?_insert_self, List.contains_iff_mem.mpr List.mem_cons_self,
          countAt_self_credited]
      · exact fun absent => absurd List.mem_cons_self absent

/-- A record that was counted goes on to the next phase. -/
theorem Pursues.endPhase (pursues : search.Pursues store id) (notRanked : search.ranked = false)
    (credited : id ∈ search.credited) : search.endPhase.Pursues store id := by
  have counted := pursues.counted
  rw [List.contains_iff_mem.mpr credited, countAt_self_credited] at counted
  have kept : search.withoutFallen.counts.get? id = some (search.phase + 1) := by
    refine (Table.get?_eraseAll_of_notMem (fun member => ?_) search.counts).trans counted
    rcases List.mem_map.mp member with ⟨⟨id', score⟩, isFallen, rfl⟩
    rcases List.mem_filter.mp isFallen with ⟨isRow, fallen⟩
    cases (search.counts.get?_eq_some_iff.mpr isRow).symm.trans counted
    have fallen : search.phase + 1 ≤ search.phase := of_decide_eq_true fallen
    omega
  have inPlace : search.phase + 1 < search.terms.length := by
    have goesOn := pursues.goesOn credited
    have inPlace := pursues.inPlace
    omega
  unfold IndexMatches.endPhase
  rw [dropFallen_of_notRanked notRanked]
  refine ⟨⟨?_, inPlace, pursues.notYielded, ?_,
    fun credited => absurd credited List.not_mem_nil⟩,
    fun _ scan isScan => absurd isScan (Option.not_mem_none scan)⟩
  · have notEmpty : search.withoutFallen.counts.isEmpty = false := by
      have isRow := search.withoutFallen.counts.get?_eq_some_iff.mp kept
      unfold Table.isEmpty
      cases isRows : search.withoutFallen.counts.rows with
      | nil =>
          rw [isRows] at isRow
          cases isRow
      | cons row rest => rfl
    change (decide (search.terms.length ≤ search.phase + 1) || _) = false
    rw [decide_eq_false (Nat.not_le.mpr inPlace), notEmpty]
    rfl
  · change search.withoutFallen.counts.get? id =
      countAt (search.phase + 1) (search.phase + 1) false
    rw [kept]
    unfold countAt
    rw [if_neg (Nat.lt_irrefl _), if_neg Bool.false_ne_true, if_neg (Nat.succ_ne_zero _)]

/-- The record was yielded by a step that has come to this, or it pends still. -/
def YieldsOrPends (store : Store) (id : String) (progress : Progress Nat) (after : IndexMatches) :
    Prop :=
  match progress with
  | .yields candidate => candidate.id = id ∨ after.Pends store id
  | .continues => after.Pends store id
  | .fails _ | .ends => False

/-- A search does not end while a record pends. -/
theorem Pends.moves (pends : search.Pends store id) (positive : 0 < batch)
    (legible : store.IsLegible) (strict : search.Strict handed) (meets : search.Meets store id)
    (moves : search.Moves batch store progress after) :
    YieldsOrPends store id progress after := by
  have pursuesOf (nothing : search.pending = []) : search.Pursues store id := by
    rcases pends with ⟨candidate, waits, _⟩ | pursues
    · rw [nothing] at waits
      cases waits
    · exact pursues
  -- What a row comes to while the answer of the record is awaited.
  have reading {scan : TermScan} (pursues : search.Pursues store id)
      (isScan : search.scan = some scan) (uncounted : id ∉ search.credited) {result : RowResult}
      {later : TermScan} (reads : scan.step batch store search.typeName = (result, later)) :
      match result with
      | .found other => other = id ∨ Pursues store { search with scan := some later } id
      | .passed => Pursues store { search with scan := some later } id
      | .finished => False
      | .failed _ => False := by
    rcases strict.underway scan isScan with ⟨term, isTerm, underway⟩
    rcases pursues.awaits uncounted scan isScan term isTerm with ⟨held, met, awaits⟩
    have step := underway.step_of_awaits legible positive meets.isTyped met awaits
    rw [reads] at step
    have goesOn (awaits : later.rows.Awaits (held.key (term.plan search.tokenized).order id)) :
        Pursues store { search with scan := some later } id := by
      refine pursues.withScan fun _ term' isTerm' => ?_
      cases isTerm.symm.trans isTerm'
      exact ⟨held, met, awaits⟩
    cases result with
    | found other => exact step.imp_right goesOn
    | passed => exact goesOn step
    | finished => exact step
    | failed cause => exact step
  cases moves with
  | hands waits =>
      rcases pends with ⟨candidate, isWaiting, isId⟩ | pursues
      · rw [waits] at isWaiting
        rcases List.mem_cons.mp isWaiting with rfl | later
        · exact .inl isId
        · exact .inr (.inl ⟨candidate, later, isId⟩)
      · exact .inr (.inr ⟨⟨pursues.running, pursues.inPlace, pursues.notYielded,
          pursues.counted, pursues.goesOn⟩, pursues.awaits⟩)
  | rests nothing ended => exact Bool.false_ne_true ((pursuesOf nothing).running.symm.trans ended)
  | stops nothing running noTerm =>
      rw [List.getElem?_eq_getElem (pursuesOf nothing).inPlace] at noTerm
      cases noTerm
  | opens nothing running noScan isTerm =>
      refine .inr ((pursuesOf nothing).withScan fun _ other isTerm' => ?_)
      cases isTerm.symm.trans isTerm'
      rcases meets.meets _ (List.mem_of_getElem? isTerm) with ⟨held, met⟩
      rcases KeyRange.admits_iff.mp met.reaches.inRange with ⟨starts, stops⟩
      exact ⟨held, met, Scan.awaits_ofBounds starts stops⟩
  | finds nothing running isScan reads =>
      rename_i scan later other
      have pursues := pursuesOf nothing
      by_cases same : other = id
      · subst same
        exact (pursues.toInTurn.withScan (some later)).credit_self strict.anyScore
      · have goesOn : Pursues store { search with scan := some later } id := by
          by_cases credited : id ∈ search.credited
          · exact pursues.withScan fun uncounted => absurd credited uncounted
          · exact (reading pursues isScan credited reads).resolve_left same
        exact .inr (goesOn.credit_other same)
  | passes nothing running isScan reads =>
      have pursues := pursuesOf nothing
      by_cases credited : id ∈ search.credited
      · exact .inr (pursues.withScan fun uncounted => absurd credited uncounted)
      · exact .inr (reading pursues isScan credited reads)
  | finishes nothing running isScan reads =>
      have pursues := pursuesOf nothing
      by_cases credited : id ∈ search.credited
      · exact .inr (pursues.endPhase strict.notRanked credited)
      · exact (reading pursues isScan credited reads).elim
  | fails isScan reads => exact (strict.moves legible (.fails isScan reads)).2

end IndexMatches

end RecordIndex
