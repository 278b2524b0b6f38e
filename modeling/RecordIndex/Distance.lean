import RecordIndex.Number.Single

namespace RecordIndex

/-!
# Distances between vectors

A distance compares two vectors over the places that both of them have.  The
smaller it is, the more alike the vectors are.  Sums run from left to right in
single precision.
-/

/-- A vector of features.  A place may be empty. -/
abbrev FeatureVector := List (Option Single)

inductive Distance where
  /-- The square root of the sum of the squared differences. -/
  | euclidean
  /-- The sum of the absolute differences. -/
  | manhattan
  /-- One less the cosine of the angle between the vectors. -/
  | cosine
  /-- Any measure of the numbers at the shared places. -/
  | custom (measure : List (Single × Single) -> Single)

namespace Distance

/-- The length of a vector of numbers. -/
def length (xs : List Single) : Single :=
  (Single.sum (xs.map fun x => x * x)).squareRoot

/-- One less the cosine.  A vector without length is at distance one from
every other. -/
def ofCosine (shared : List (Single × Single)) : Single :=
  let product := Single.sum (shared.map fun (x, y) => x * y)
  let scale := length (shared.map Prod.fst) * length (shared.map Prod.snd)
  if scale.compare? .zero == some .eq then .one else .one - product / scale

/-- The distance of the numbers at the shared places. -/
def measure (distance : Distance) (shared : List (Single × Single)) : Single :=
  match distance with
  | .euclidean => length (shared.map fun (x, y) => x - y)
  | .manhattan => Single.sum (shared.map fun (x, y) => (x - y).abs)
  | .cosine => ofCosine shared
  | .custom measure => measure shared

/-- The pairs of numbers at the places that both vectors have. -/
def shared : FeatureVector -> FeatureVector -> List (Single × Single)
  | some x :: xs, some y :: ys => (x, y) :: shared xs ys
  | _ :: xs, _ :: ys => shared xs ys
  | _, _ => []

/-- The distance of two vectors, unless they share no place. -/
def between? (distance : Distance) (xs ys : FeatureVector) : Option Single :=
  let shared := shared xs ys
  if shared.isEmpty then none else some (distance.measure shared)

end Distance

end RecordIndex
