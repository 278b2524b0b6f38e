import RecordIndex.Error

namespace RecordIndex

/-!
# Options of index queries

A query is strict unless it is ranked.  A strict query yields the records that
match in full; a ranked one also yields those that match in part, with the
number of terms they satisfy as their score.
-/

/-- Full-text matching. -/
inductive FullText where
  /-- Any shared term makes a record a match. -/
  | any
  /-- A record must share at least this part of the terms, from zero to one. -/
  | threshold (part : Number)
deriving DecidableEq

structure IndexOptions where
  /-- Only records of this type are looked for. -/
  typeName : Option String := none
  fullText : Option FullText := none
  /-- Partial matches too, with the best score first. -/
  sortable : Bool := false
  minScore : Option Nat := none
  limit : Option Nat := none
  offset : Nat := 0
  /-- Look at every record of the type when the pattern has no term. -/
  scanFallback : Bool := false

namespace IndexOptions

/-- Partial matches are yielded too. -/
def isRanked (options : IndexOptions) : Bool :=
  options.sortable || options.fullText.isSome

/-- The number lies between zero and one. -/
def isPart (part : Number) : Bool :=
  (Number.zero.compare? part).any Ordering.isLE && (part.compare? .one).any Ordering.isLE

/-- Refuse malformed options before anything is read. -/
def validate (options : IndexOptions) : Except Error Unit :=
  match options.fullText with
  | some (.threshold part) => if isPart part then .ok () else .error (.thresholdOutside part)
  | _ => .ok ()

/-- The largest score there is. -/
def maxScore : Nat :=
  0xFFFFFFFFFFFFFFFF

/-- The least score that a threshold asks for, of so many terms. -/
def fullTextScore (fullText : Option FullText) (terms : Nat) : Nat :=
  match fullText with
  | some (.threshold part) => (Number.ofInt terms * part).ceilingBelow maxScore
  | _ => 0

/-- The least score that a match needs, of so many terms. -/
def requiredScore (options : IndexOptions) (terms : Nat) : Nat :=
  max (options.minScore.getD 0) (fullTextScore options.fullText terms)

end IndexOptions

end RecordIndex
