import RecordIndex.Proofs.Query.Steps

namespace RecordIndex

/-!
# What a search yields

A strict search yields the records whose leading run takes in every term, and a
ranked one every record whose run is long enough, with the length of the run as
the score.  Each record is yielded once.  A search fails if the scan of a term
does that it comes to, and it comes to a term if some record is found by all the
terms in front of it.
-/

namespace Source

variable {S Mark : Type} [Source S Mark]

/-- What is drained is what the first step yields and what is drained after
it. -/
theorem drain_eq {batch : Nat} {store : Store} {source after : S} {progress : Progress Mark}
    (isStep : step batch store source = (progress, after)) :
    drain batch store source =
      match progress with
      | .yields candidate => (drain batch store after).map fun rest => candidate :: rest
      | .continues => drain batch store after
      | .fails cause => .error cause
      | .ends => .ok [] := by
  conv =>
    lhs
    unfold drain
  split
  all_goals
    rename_i taken
    cases isStep.symm.trans taken
    rfl

end Source

namespace IndexMatches

variable {batch : Nat} {store : Store} {search : IndexMatches}

/-- What comes after the first of those that wait is another record. -/
theorem id_ne_of_owed (tracks : search.Tracks store) {candidate other : Candidate Nat}
    {rest : List (Candidate Nat)} (isPending : search.pending = candidate :: rest)
    (owed : Owed store { search with pending := rest } other) : other.id ≠ candidate.id := by
  have fresh := tracks.fresh
  unfold Fresh at fresh
  rw [isPending] at fresh
  intro same
  rcases owed with waits | ⟨_, notYielded⟩
  · exact (List.nodup_cons.mp fresh.1).1 (List.mem_map.mpr ⟨other, waits, same⟩)
  · exact notYielded (same ▸ fresh.2 candidate List.mem_cons_self)

/-- What a search yields that comes to its end is what it owes, each record
once. -/
theorem mem_drain_of_tracks (positive : 0 < batch) (search : IndexMatches)
    (tracks : search.Tracks store) {candidates : List (Candidate Nat)}
    (drained : Source.drain batch store search = .ok candidates) :
    (candidates.map Candidate.id).Nodup ∧
      forall candidate, candidate ∈ candidates ↔ search.Owed store candidate := by
  induction search using @Source.drain.induct IndexMatches Nat _ batch store
    generalizing candidates with
  | case1 search candidate after isStep ih =>
      have moves := moves_of_step tracks.noFallback isStep
      rcases moves.advances positive tracks nofun with ⟨waiting, isPending, rfl⟩
      rw [Source.drain_eq isStep] at drained
      cases isRest : Source.drain batch store { search with pending := waiting } with
      | error cause =>
          rw [isRest] at drained
          cases drained
      | ok rest =>
          rw [isRest] at drained
          cases drained
          rcases ih (tracks.takePending isPending) isRest with ⟨nodup, owed⟩
          refine ⟨List.nodup_cons.mpr ⟨?_, nodup⟩, ?_⟩
          · intro member
            rcases List.mem_map.mp member with ⟨other, isOther, same⟩
            exact id_ne_of_owed tracks isPending ((owed other).mp isOther) same
          · intro other
            unfold Owed
            rw [List.mem_cons, owed, isPending, List.mem_cons, or_assoc]
            rfl
  | case2 search after isStep ih =>
      have moves := moves_of_step tracks.noFallback isStep
      have advances := moves.advances positive tracks nofun
      rw [Source.drain_eq isStep] at drained
      rcases ih advances.1 drained with ⟨nodup, owed⟩
      exact ⟨nodup, fun candidate => (owed candidate).trans (advances.2 candidate)⟩
  | case3 search cause after isStep =>
      rw [Source.drain_eq isStep] at drained
      cases drained
  | case4 search after isStep =>
      have moves := moves_of_step tracks.noFallback isStep
      have advances := moves.advances positive tracks nofun
      rw [Source.drain_eq isStep] at drained
      cases drained
      exact ⟨List.nodup_nil, fun candidate => ⟨fun member => absurd member List.not_mem_nil,
        fun owed => (advances candidate owed).elim⟩⟩

/-- The scan of some term that the search comes to fails with this error. -/
def FailsWith (batch : Nat) (store : Store) (search : IndexMatches) (cause : Error) : Prop :=
  ∃ place term, search.terms[place]? = some term ∧ search.IsReached store place ∧
    search.failure batch store term = some cause

theorem failsWith_of_asked {after : IndexMatches} (asked : after.asked = search.asked)
    (cause : Error) : after.FailsWith batch store cause ↔ search.FailsWith batch store cause := by
  unfold FailsWith
  simp only [isReached_of_asked asked, failure_of_asked asked, (Prod.mk.inj asked).1]

/-- A step that does not fail keeps what is known of a search. -/
theorem tracks_of_advances {progress : Progress Nat} {after : IndexMatches}
    (tracks : search.Tracks store) (advances : search.Advances store (progress, after))
    (goesOn : forall cause, progress ≠ .fails cause) (notEnd : progress ≠ .ends) :
    after.Tracks store := by
  cases progress with
  | yields candidate =>
      rcases advances with ⟨rest, isPending, rfl⟩
      exact tracks.takePending isPending
  | continues => exact advances.1
  | fails cause => exact absurd rfl (goesOn cause)
  | ends => exact absurd rfl notEnd

/-- A search comes to its end without a failure, or it fails where the scan of a
term does. -/
theorem failures_of_drain (positive : 0 < batch) (search : IndexMatches)
    (tracks : search.Tracks store) (reports : search.Reports batch store) :
    match Source.drain batch store search with
    | .ok _ => search.Unfailing batch store
    | .error cause => search.FailsWith batch store cause := by
  induction search using @Source.drain.induct IndexMatches Nat _ batch store with
  | case1 search candidate after isStep ih =>
      have moves := moves_of_step tracks.noFallback isStep
      have later := ih (tracks_of_advances tracks (moves.advances positive tracks nofun) nofun nofun)
        (moves.reports positive tracks reports nofun)
      rw [unfailing_of_asked moves.asked] at later
      simp only [failsWith_of_asked moves.asked] at later
      rw [Source.drain_eq isStep]
      cases isRest : Source.drain batch store after with
      | error cause =>
          rw [isRest] at later
          exact later
      | ok rest =>
          rw [isRest] at later
          exact later
  | case2 search after isStep ih =>
      have moves := moves_of_step tracks.noFallback isStep
      have later := ih (tracks_of_advances tracks (moves.advances positive tracks nofun) nofun nofun)
        (moves.reports positive tracks reports nofun)
      rw [unfailing_of_asked moves.asked] at later
      simp only [failsWith_of_asked moves.asked] at later
      rw [Source.drain_eq isStep]
      exact later
  | case3 search cause after isStep =>
      rw [Source.drain_eq isStep]
      cases moves_of_step tracks.noFallback isStep with
      | fails isScan reads =>
          rcases reports.here _ isScan with ⟨reached, term, isTerm, fails⟩
          rw [TermScan.outcome_eq reads] at fails
          exact ⟨search.phase, term, isTerm, reached, fails.symm⟩
  | case4 search after isStep =>
      rw [Source.drain_eq isStep]
      cases moves_of_step tracks.noFallback isStep with
      | rests nothing ended => exact reports.settled ended
      | stops nothing running noTerm =>
          rw [List.getElem?_eq_getElem (tracks.running running).1.inPlace] at noTerm
          cases noTerm

theorem tracks_forTerms (store : Store) {terms : List QueryTerm} (nonempty : terms ≠ [])
    (options : IndexOptions) (tokenized : Bool) :
    (forTerms terms options tokenized).Tracks store := by
  have isNonempty : terms.isEmpty = false := by
    cases terms with
    | nil => exact absurd rfl nonempty
    | cons _ _ => rfl
  have running : (forTerms terms options tokenized).done = false := by
    unfold forTerms
    rw [isNonempty]
    rfl
  have fresh : (forTerms terms options tokenized).Fresh := ⟨List.nodup_nil, nofun⟩
  refine ⟨?_, fresh, fun _ => ⟨⟨?_, fun id => ?_, fresh, fun candidate _ _ => ⟨?_, fun _ => nofun⟩⟩,
    rfl⟩, fun ended => absurd (running.symm.trans ended) Bool.false_ne_true⟩
  · unfold forTerms
    rw [isNonempty]
    rfl
  · exact List.length_pos_iff.mpr nonempty
  · rfl
  · exact Nat.zero_le _

theorem reports_forTerms (batch : Nat) (store : Store) {terms : List QueryTerm}
    (nonempty : terms ≠ []) (options : IndexOptions) (tokenized : Bool) :
    (forTerms terms options tokenized).Reports batch store where
  behind _ _ isBehind := absurd isBehind (Nat.not_lt_zero _)
  here _ isScan := nomatch isScan
  running _ := ⟨"", Nat.zero_le _⟩
  settled ended := by
    cases terms with
    | nil => exact absurd rfl nonempty
    | cons _ _ => cases ended

/-- A search for at least one term yields the records that deserve it, each of
them once, unless the scan of a term fails that it comes to. -/
theorem drain_forTerms_spec (positive : 0 < batch) (store : Store) {terms : List QueryTerm}
    (nonempty : terms ≠ []) (options : IndexOptions) (tokenized : Bool) :
    match Source.drain batch store (forTerms terms options tokenized) with
    | .ok candidates => (forTerms terms options tokenized).Unfailing batch store ∧
        (candidates.map Candidate.id).Nodup ∧ forall candidate, candidate ∈ candidates ↔
          (forTerms terms options tokenized).Deserves store candidate
    | .error cause => (forTerms terms options tokenized).FailsWith batch store cause := by
  have tracks := tracks_forTerms store nonempty options tokenized
  have failures := failures_of_drain positive _ tracks
    (reports_forTerms batch store nonempty options tokenized)
  cases drained : Source.drain batch store (forTerms terms options tokenized) with
  | error cause =>
      rw [drained] at failures
      exact failures
  | ok candidates =>
      rw [drained] at failures
      rcases mem_drain_of_tracks positive _ tracks drained with ⟨nodup, owed⟩
      refine ⟨failures, nodup, fun candidate => (owed candidate).trans ⟨?_, ?_⟩⟩
      · rintro (waits | ⟨deserves, _⟩)
        · cases waits
        · exact deserves
      · exact fun deserves => .inr ⟨deserves, nofun⟩

/-- Where every key can be read, no search fails. -/
theorem drain_forTerms (positive : 0 < batch) (readable : TermScan.Readable store)
    {terms : List QueryTerm} (nonempty : terms ≠ []) (options : IndexOptions) (tokenized : Bool) :
    ∃ candidates, Source.drain batch store (forTerms terms options tokenized) = .ok candidates ∧
      (candidates.map Candidate.id).Nodup ∧ forall candidate, candidate ∈ candidates ↔
        (forTerms terms options tokenized).Deserves store candidate := by
  have spec := drain_forTerms_spec positive store nonempty options tokenized
  cases drained : Source.drain batch store (forTerms terms options tokenized) with
  | error cause =>
      rw [drained] at spec
      rcases spec with ⟨_, term, _, _, fails⟩
      have unfailing := (TermScan.outcome_spec options.typeName positive
        (TermScan.sound_forTerm store term tokenized)).2 readable
      cases unfailing.symm.trans fails
  | ok candidates =>
      rw [drained] at spec
      exact ⟨candidates, rfl, spec.2⟩

end IndexMatches

end RecordIndex
