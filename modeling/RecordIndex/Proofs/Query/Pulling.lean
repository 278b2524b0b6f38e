import RecordIndex.Proofs.Query.Hits
import RecordIndex.Proofs.Query.Pursuit

namespace RecordIndex

/-!
# What a pull comes to

A pull lets the source yield candidates until one of them is a hit, or until
the source ends or fails.  So a range that reads a strict search hands out no
record twice, and while it owes a record it does not end.
-/

namespace Database

variable {S Mark : Type} [Source S Mark] {database : Database} {page : Page}

/-- What a pull comes to, and how it leaves the source.  Every hit of the page
is handed out. -/
inductive Pulls (database : Database) (page : Page) :
    S -> Except Error (Option (Hit Mark)) -> S -> Prop where
  | hands {source later : S} {candidate : Candidate Mark} {hit : Hit Mark}
      (isStep : Source.step database.config.scanBatch database.store source =
        (.yields candidate, later))
      (isHit : page.hit? database.store candidate = some hit) :
      Pulls database page source (.ok (some hit)) later
  | passes {source later last : S} {candidate : Candidate Mark}
      {outcome : Except Error (Option (Hit Mark))}
      (isStep : Source.step database.config.scanBatch database.store source =
        (.yields candidate, later))
      (noHit : page.hit? database.store candidate = none)
      (pulls : Pulls database page later outcome last) : Pulls database page source outcome last
  | continues {source later last : S} {outcome : Except Error (Option (Hit Mark))}
      (isStep : Source.step database.config.scanBatch database.store source = (.continues, later))
      (pulls : Pulls database page later outcome last) : Pulls database page source outcome last
  | fails {source later : S} {cause : Error}
      (isStep : Source.step database.config.scanBatch database.store source =
        (.fails cause, later)) : Pulls database page source (.error cause) later
  | ends {source later : S}
      (isStep : Source.step database.config.scanBatch database.store source = (.ends, later)) :
      Pulls database page source (.ok none) later

theorem pulls_of_pull (whole : page.IsWhole) (source : S)
    {outcome : Except Error (Option (Hit Mark))} {later : Range S}
    (pulled : database.pull ⟨source, page⟩ = (outcome, later)) :
    later.page = page ∧ database.Pulls page source outcome later.source := by
  have more : page.isExhausted = false := by
    unfold Page.isExhausted
    rw [whole.2]
    rfl
  have kept : ({ page with limit := page.limit.map fun left => left - 1 } : Page) = page := by
    rw [whole.2]
    rcases page with ⟨valueMatch, select, offset, limit⟩
    cases whole.2
    rfl
  generalize isRange : (⟨source, page⟩ : Range S) = range at pulled
  induction range using @Range.next.induct S Mark _ database.config.scanBatch
    database.store generalizing source outcome later with
  | case1 range isExhausted =>
      subst isRange
      exact absurd isExhausted (by rw [more]; exact Bool.false_ne_true)
  | case2 range _ candidate after isStep value version page' isLoaded =>
      subst isRange
      have same := pull_eq more isStep
      dsimp only at same isLoaded
      rw [isLoaded] at same
      cases same.symm.trans pulled
      rw [Page.load_eq] at isLoaded
      cases isHit : page.hit? database.store candidate with
      | none =>
          rw [isHit] at isLoaded
          cases isLoaded
      | some hit =>
          rw [isHit] at isLoaded
          dsimp only at isLoaded
          rw [if_neg (by rw [whole.1]; exact Nat.lt_irrefl 0), kept] at isLoaded
          cases isLoaded
          rcases Page.hit?_eq_some isHit with ⟨key, mark, _⟩
          refine ⟨rfl, .hands isStep ?_⟩
          rw [isHit, ← key, ← mark]
  | case3 range _ candidate after isStep page' isLoaded ih =>
      subst isRange
      have same := pull_eq more isStep
      dsimp only at same isLoaded
      rw [isLoaded] at same
      rw [Page.load_eq] at isLoaded
      cases isHit : page.hit? database.store candidate with
      | none =>
          rw [isHit] at isLoaded
          cases isLoaded
          rcases ih after rfl (same.symm.trans pulled) with ⟨isPage, pulls⟩
          exact ⟨isPage, .passes isStep isHit pulls⟩
      | some hit =>
          rw [isHit] at isLoaded
          dsimp only at isLoaded
          rw [if_neg (by rw [whole.1]; exact Nat.lt_irrefl 0)] at isLoaded
          cases isLoaded
  | case4 range _ after isStep ih =>
      subst isRange
      rcases ih after rfl ((pull_eq more isStep).symm.trans pulled) with ⟨isPage, pulls⟩
      exact ⟨isPage, .continues isStep pulls⟩
  | case5 range _ cause after isStep =>
      subst isRange
      cases (pull_eq more isStep).symm.trans pulled
      exact ⟨rfl, .fails isStep⟩
  | case6 range _ after isStep =>
      subst isRange
      cases (pull_eq more isStep).symm.trans pulled
      exact ⟨rfl, .ends isStep⟩

/-- Candidates that are read as they are pulled come from the source. -/
theorem Pulls.of_streaming {source : S} {outcome : Except Error (Option (Hit Mark))}
    {last : Candidates S Mark}
    (pulls : database.Pulls page (Candidates.streaming source) outcome last) :
    ∃ after, last = .streaming after ∧ database.Pulls page source outcome after := by
  have forwards {source : S} {progress : Progress Mark} {last : Candidates S Mark}
      (isStep : Source.step database.config.scanBatch database.store
        (Candidates.streaming source : Candidates S Mark) = (progress, last)) :
      ∃ after, last = .streaming after ∧
        Source.step database.config.scanBatch database.store source = (progress, after) := by
    cases isStep
    exact ⟨_, rfl, rfl⟩
  generalize isSource : (Candidates.streaming source : Candidates S Mark) = candidates at pulls
  induction pulls generalizing source with
  | hands isStep isHit =>
      subst isSource
      rcases forwards isStep with ⟨after, rfl, taken⟩
      exact ⟨after, rfl, .hands taken isHit⟩
  | passes isStep noHit _ ih =>
      subst isSource
      rcases forwards isStep with ⟨after, rfl, taken⟩
      rcases ih rfl with ⟨last, isLast, pulls⟩
      exact ⟨last, isLast, .passes taken noHit pulls⟩
  | continues isStep _ ih =>
      subst isSource
      rcases forwards isStep with ⟨after, rfl, taken⟩
      rcases ih rfl with ⟨last, isLast, pulls⟩
      exact ⟨last, isLast, .continues taken pulls⟩
  | fails isStep =>
      subst isSource
      rcases forwards isStep with ⟨after, rfl, taken⟩
      exact ⟨after, rfl, .fails taken⟩
  | ends isStep =>
      subst isSource
      rcases forwards isStep with ⟨after, rfl, taken⟩
      exact ⟨after, rfl, .ends taken⟩

/-- A hit that is pulled shows a record of the database that passes the check. -/
theorem Pulls.shows {source last : S} {hit : Hit Mark}
    (pulls : database.Pulls page source (.ok (some hit)) last) :
    ∃ record, database.store.records.get? hit.key = some record ∧
      page.admits record.value = true ∧ page.Shows record hit := by
  generalize isOutcome : (Except.ok (some hit) : Except Error (Option (Hit Mark))) = outcome at pulls
  induction pulls with
  | hands isStep isHit =>
      cases isOutcome
      rcases Page.hit?_eq_some isHit with ⟨key, _, record, isRecord, admitted, shows_⟩
      exact ⟨record, key ▸ isRecord, admitted, shows_⟩
  | passes isStep noHit pulls ih => exact ih isOutcome
  | continues isStep pulls ih => exact ih isOutcome
  | fails isStep => cases isOutcome
  | ends isStep => cases isOutcome

end Database

/-! ## Strict searches -/

namespace IndexMatches

open Database

variable {database : Database} {page : Page} {search last : IndexMatches}
  {outcome : Except Error (Option (Hit Nat))} {handed : List (Candidate Nat)}

theorem Strict.moves_of_step (strict : search.Strict handed) {batch : Nat} {store : Store}
    {progress : Progress Nat} {after : IndexMatches}
    (isStep : Source.step batch store search = (progress, after)) :
    search.Moves batch store progress after :=
  IndexMatches.moves_of_step strict.noFallback isStep

/-- What has been handed out after a pull, and that the pull has not failed. -/
def HandsOut (handed : List (Candidate Nat)) (outcome : Except Error (Option (Hit Nat)))
    (last : IndexMatches) : Prop :=
  match outcome with
  | .ok hit => ∃ candidates, last.Strict (handed ++ candidates) ∧
      (hit.toList.map Hit.key).Sublist (candidates.map Candidate.id)
  | .error _ => False

/-- A pull does not fail, and hands out what was not handed out before. -/
theorem Strict.pulls (strict : search.Strict handed) (legible : database.store.IsLegible)
    (pulls : database.Pulls page search outcome last) :
    last.asked = search.asked ∧ HandsOut handed outcome last := by
  induction pulls generalizing handed with
  | hands isStep isHit =>
      rcases strict.moves legible (strict.moves_of_step isStep) with ⟨asked, strict⟩
      refine ⟨asked, [_], strict, ?_⟩
      rw [Option.toList_some, List.map_singleton, (Page.hit?_eq_some isHit).1]
      exact List.Sublist.refl _
  | @passes source later last candidate outcome isStep noHit pulls ih =>
      rcases strict.moves legible (strict.moves_of_step isStep) with ⟨asked, strict⟩
      rcases ih strict with ⟨asked', handsOut⟩
      refine ⟨asked'.trans asked, ?_⟩
      cases outcome with
      | error cause => exact handsOut
      | ok hit =>
          rcases handsOut with ⟨candidates, strict, isHit⟩
          rw [List.append_assoc] at strict
          exact ⟨candidate :: candidates, strict, isHit.cons candidate.id⟩
  | continues isStep pulls ih =>
      rcases strict.moves legible (strict.moves_of_step isStep) with ⟨asked, strict⟩
      rcases ih strict with ⟨asked', handsOut⟩
      exact ⟨asked'.trans asked, handsOut⟩
  | fails isStep => exact (strict.moves legible (strict.moves_of_step isStep)).2.elim
  | ends isStep =>
      rcases strict.moves legible (strict.moves_of_step isStep) with ⟨asked, strict⟩
      refine ⟨asked, [], ?_, List.Sublist.refl _⟩
      rw [List.append_nil]
      exact strict

theorem Meets.of_asked {store : Store} {id : String} (meets : search.Meets store id)
    (asked : last.asked = search.asked) : last.Meets store id := by
  rcases Prod.mk.inj asked with ⟨terms, rest⟩
  rcases Prod.mk.inj rest with ⟨typeName, tokenized⟩
  refine ⟨typeName ▸ meets.isTyped, ?_⟩
  rw [terms, tokenized]
  exact meets.meets

/-- While a record pends that is a hit, a pull hands it out or another hit, and
then the record pends still. -/
theorem Pends.pulls {id : String} (pends : search.Pends database.store id)
    (readsRows : 0 < database.config.scanBatch) (legible : database.store.IsLegible)
    (strict : search.Strict handed) (meets : search.Meets database.store id)
    (isHit : forall mark, page.hit? database.store (⟨id, mark⟩ : Candidate Nat) ≠ none)
    (pulls : database.Pulls page search outcome last) :
    ∃ hit, outcome = .ok (some hit) ∧ (hit.key = id ∨ last.Pends database.store id) := by
  induction pulls generalizing handed with
  | hands isStep isHit' =>
      have moves := strict.moves_of_step isStep
      refine ⟨_, rfl, ?_⟩
      rw [(Page.hit?_eq_some isHit').1]
      exact pends.moves readsRows legible strict meets moves
  | @passes source later last candidate outcome isStep noHit pulls ih =>
      have moves := strict.moves_of_step isStep
      rcases strict.moves legible moves with ⟨asked, strict'⟩
      rcases pends.moves readsRows legible strict meets moves with rfl | pends
      · exact absurd noHit (isHit candidate.mark)
      · exact ih pends strict' (meets.of_asked asked)
  | continues isStep pulls ih =>
      have moves := strict.moves_of_step isStep
      rcases strict.moves legible moves with ⟨asked, strict'⟩
      exact ih (pends.moves readsRows legible strict meets moves) strict' (meets.of_asked asked)
  | fails isStep =>
      exact (pends.moves readsRows legible strict meets (strict.moves_of_step isStep)).elim
  | ends isStep =>
      exact (pends.moves readsRows legible strict meets (strict.moves_of_step isStep)).elim

end IndexMatches

end RecordIndex
