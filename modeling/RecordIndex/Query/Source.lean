import RecordIndex.Pattern.Verdict
import RecordIndex.Projection
import RecordIndex.Store

namespace RecordIndex

/-!
# Ranges

The result of a query is a range: it is read one hit at a time, and each hit
is loaded from the store as it is when the hit is pulled.  Where the records
come from is a source of candidates.  A source is a machine that is run step
by step; a step may yield a candidate or just go on, and on a store that does
not change there are only so many steps.  Every kind of query has its own
source, and all of them share the tail: load the record, check it, page, and
project.
-/

/-- A record that may be a hit, with its score or its distance. -/
structure Candidate (Mark : Type) where
  id : String
  mark : Mark
deriving DecidableEq

/-- What one step of a source comes to. -/
inductive Progress (Mark : Type) where
  | yields (candidate : Candidate Mark)
  | continues
  | fails (cause : Error)
  | ends

/-- A bound on the steps of a source, ordered lexicographically. -/
abbrev StepBound := Nat × Nat × Nat × Nat

namespace StepBound

/-- The bound has gone down. -/
def Below (after before : StepBound) : Prop :=
  WellFoundedRelation.rel after before

theorem below_of_first {a b : Nat} {rest rest' : Nat × Nat × Nat} (less : a < b) :
    Below (a, rest) (b, rest') :=
  Prod.Lex.left _ _ less

theorem below_of_second {a b c : Nat} {rest rest' : Nat × Nat} (less : b < c) :
    Below (a, b, rest) (a, c, rest') :=
  Prod.Lex.right _ (Prod.Lex.left _ _ less)

theorem below_of_third {a b c d e e' : Nat} (less : c < d) :
    Below (a, b, c, e) (a, b, d, e') :=
  Prod.Lex.right _ (Prod.Lex.right _ (Prod.Lex.left _ _ less))

theorem below_of_fourth {a b c d e : Nat} (less : d < e) :
    Below (a, b, c, d) (a, b, c, e) :=
  Prod.Lex.right _ (Prod.Lex.right _ (Prod.Lex.right _ less))

end StepBound

/-- A machine that yields candidates.  It reads the store in batches. -/
class Source (S : Type) (Mark : outParam Type) where
  step : Nat -> Store -> S -> Progress Mark × S
  stepBound : Store -> S -> StepBound
  /-- A step that yields or continues brings the end nearer. -/
  stepBound_lt : forall {batch : Nat} {store : Store} {source after : S}
    {progress : Progress Mark}, step batch store source = (progress, after) ->
      (forall cause, progress ≠ .fails cause) -> progress ≠ .ends ->
        StepBound.Below (stepBound store after) (stepBound store source)

namespace Source

variable {S Mark : Type} [Source S Mark]

/-- All the candidates of a source, read without a pause. -/
def drain (batch : Nat) (store : Store) (source : S) : Except Error (List (Candidate Mark)) :=
  match _isStep : step batch store source with
  | (.yields candidate, after) => (drain batch store after).map fun rest => candidate :: rest
  | (.continues, after) => drain batch store after
  | (.fails cause, _) => .error cause
  | (.ends, _) => .ok []
termination_by stepBound store source
decreasing_by
  all_goals exact stepBound_lt _isStep (fun _ => nofun) nofun

end Source

/-- Candidates that are already known. -/
instance {Mark : Type} : Source (List (Candidate Mark)) Mark where
  step _ _ candidates :=
    match candidates with
    | [] => (.ends, [])
    | candidate :: rest => (.yields candidate, rest)
  stepBound _ candidates := (0, 0, 0, candidates.length)
  stepBound_lt := by
    intro _ _ candidates _ _ isStep _ notEnd
    cases candidates with
    | nil =>
        cases isStep
        exact absurd rfl notEnd
    | cons candidate rest =>
        cases isStep
        exact StepBound.below_of_fourth (Nat.lt_succ_self _)

/-- Candidates that are read as they are pulled, or that were read and put in
order when the range was made. -/
inductive Candidates (S Mark : Type) where
  | streaming (source : S)
  | listed (candidates : List (Candidate Mark))

instance {S Mark : Type} [Source S Mark] : Source (Candidates S Mark) Mark where
  step batch store candidates :=
    match candidates with
    | .streaming source =>
        let (progress, after) := Source.step batch store source
        (progress, .streaming after)
    | .listed candidates =>
        let (progress, after) := Source.step batch store candidates
        (progress, .listed after)
  stepBound store candidates :=
    match candidates with
    | .streaming source => Source.stepBound store source
    | .listed candidates => Source.stepBound store candidates
  stepBound_lt := by
    intro batch store candidates _ _ isStep notFail notEnd
    cases candidates with
    | streaming source =>
        cases isStep
        exact @Source.stepBound_lt S Mark _ batch store source _ _ rfl notFail notEnd
    | listed candidates =>
        cases isStep
        exact @Source.stepBound_lt _ Mark _ batch store candidates _ _ rfl notFail notEnd

/-! ## The tail of every query -/

/-- What is done with the candidates: which of them are hits, which hits are
handed out, and in what form. -/
structure Page where
  /-- The pattern that a hit must match, if any. -/
  valueMatch : Option Pattern
  select : Option Projection
  /-- How many hits are still to be passed over. -/
  offset : Nat
  /-- How many hits may still be handed out, if there is a limit. -/
  limit : Option Nat

namespace Page

/-- No further hit may be handed out. -/
def isExhausted (page : Page) : Bool :=
  page.limit == some 0

/-- The value passes the check of the page. -/
def admits (page : Page) (value : Value) : Bool :=
  page.valueMatch.all fun pattern => pattern.isMatch value

/-- What is handed out of a value.  Undefined stands for a value that the
projection omits. -/
def project (page : Page) (value : Value) : Value :=
  match page.select with
  | some projection => (projection.select value).getD .undefined
  | none => value

/-- Load a candidate.  Nothing is handed out when the record is gone, when it
fails the check, or when it is passed over. -/
def load (page : Page) (store : Store) (id : String) : Option (Value × Nat) × Page :=
  match store.records.get? id with
  | none => (none, page)
  | some record =>
      if !page.admits record.value then (none, page)
      else if 0 < page.offset then (none, { page with offset := page.offset - 1 })
      else
        (some (page.project record.value, record.version),
          { page with limit := page.limit.map fun left => left - 1 })

end Page

/-- A record that a query hands out. -/
structure Hit (Mark : Type) where
  key : String
  value : Value
  version : Nat
  mark : Mark

/-- The result of a query, read one hit at a time. -/
structure Range (S : Type) where
  source : S
  page : Page

namespace Range

variable {S Mark : Type} [Source S Mark]

/-- The next hit, read from the store as it is now. -/
def next (batch : Nat) (store : Store) (range : Range S) :
    Except Error (Option (Hit Mark)) × Range S :=
  if range.page.isExhausted then (.ok none, range)
  else
    match _isStep : Source.step batch store range.source with
    | (.yields candidate, source) =>
        match range.page.load store candidate.id with
        | (some (value, version), page) =>
            (.ok (some ⟨candidate.id, value, version, candidate.mark⟩), ⟨source, page⟩)
        | (none, page) => next batch store ⟨source, page⟩
    | (.continues, source) => next batch store ⟨source, range.page⟩
    | (.fails cause, source) => (.error cause, ⟨source, range.page⟩)
    | (.ends, source) => (.ok none, ⟨source, range.page⟩)
termination_by Source.stepBound store range.source
decreasing_by
  all_goals exact Source.stepBound_lt _isStep (fun _ => nofun) nofun

end Range

end RecordIndex
