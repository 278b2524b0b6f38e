import RecordIndex.Query.Source

namespace RecordIndex

/-!
# Vector queries

A vector query looks for records whose vectors lie near a given one.  Every
stored vector of the type is compared, in the order of the records, and those
within reach are candidates with their distance.
-/

/-- What distances are measured from. -/
inductive VectorQuery where
  /-- A record, whose vector the schema of the type makes. -/
  | value (record : Value)
  | vector (places : FeatureVector)

structure VectorOptions where
  typeName : Option String := none
  distance : Distance := .euclidean
  maxDistance : Option Single := none
  /-- The nearest records come first. -/
  sort : Bool := false
  limit : Option Nat := none
  offset : Nat := 0

namespace VectorOptions

/-- Refuse malformed options before anything is read. -/
def validate (options : VectorOptions) : Except Error Unit :=
  match options.maxDistance with
  | some reach => if Single.zero.atMost reach then .ok () else .error (.badMaxDistance reach)
  | none => .ok ()

/-- The distance is within reach.  What is not a number never is. -/
def admits (options : VectorOptions) (distance : Single) : Bool :=
  !distance.isNaN && options.maxDistance.all fun reach => distance.atMost reach

end VectorOptions

/-- A read of the stored vectors in progress. -/
structure VectorScan where
  vector : FeatureVector
  options : VectorOptions
  rows : Scan String FeatureVector

namespace VectorScan

/-- The read for a query, before its first step. -/
def forQuery (vector : FeatureVector) (options : VectorOptions) : VectorScan :=
  let (start, stop) := Store.keyRange options.typeName
  ⟨vector, options, .ofBounds start stop⟩

/-- The candidate that a stored vector makes, if it is within reach. -/
def candidate? (scan : VectorScan) (row : String × FeatureVector) : Option (Candidate Single) :=
  ((scan.options.distance.between? scan.vector row.2).filter scan.options.admits).map fun distance =>
    ⟨row.1, distance⟩

/-- Compare one stored vector. -/
def step (batch : Nat) (store : Store) (scan : VectorScan) : Progress Single × VectorScan :=
  match scan.rows.next batch store.vectors with
  | (some row, rows) =>
      match scan.candidate? row with
      | some candidate => (.yields candidate, { scan with rows })
      | none => (.continues, { scan with rows })
  | (none, rows) => (.ends, { scan with rows })

/-- Only the rows bound the steps that are left. -/
def stepBound (store : Store) (scan : VectorScan) : StepBound :=
  (0, 0, scan.rows.remaining store.vectors, 0)

theorem stepBound_step {batch : Nat} {store : Store} {scan after : VectorScan}
    {progress : Progress Single} (isStep : scan.step batch store = (progress, after))
    (notEnd : progress ≠ .ends) :
    StepBound.Below (after.stepBound store) (scan.stepBound store) := by
  unfold step at isStep
  split at isStep
  · rename_i row rows isRow
    have fewer := Scan.remaining_next_lt isRow
    have same : after = { scan with rows } := by
      split at isStep
      all_goals
        cases isStep
        rfl
    subst same
    exact StepBound.below_of_third fewer
  · cases isStep
    exact absurd rfl notEnd

end VectorScan

instance : Source VectorScan Single where
  step batch store scan := scan.step batch store
  stepBound store scan := scan.stepBound store
  stepBound_lt isStep _ notEnd := VectorScan.stepBound_step isStep notEnd

end RecordIndex
