import RecordIndex.Value

namespace RecordIndex

/-!
# Features

A feature is one position of the vector that stands for a record.  It reads
the value at a path and maps it into the interval from zero to one: a number
by its place between two bounds, a category by its place in a list.  Bounds
and lists that are not fixed are learned from the records as they are written.
-/

/-- How a feature turns what it finds into a number. -/
inductive FeatureKind where
  /-- The place of a number between two bounds. -/
  | numeric (low high : Option Number) (fixed : Bool)
  /-- The place of a category in a list. -/
  | categorical (categories : List String) (fixed : Bool)
deriving DecidableEq

/-- A path into a record and how to read what is there. -/
structure Feature where
  path : List String
  kind : FeatureKind
deriving DecidableEq

/-- The names along a path that is written with dots. -/
def splitPath (dotted : String) : List String :=
  dotted.splitOn "."

namespace FeatureKind

/-- The finite number that a value is. -/
def finiteNumber? (found : Value) : Option Number :=
  found.number?.filter Number.isFinite

/-! ## Reading -/

/-- Where a number lies between two bounds, from zero to one.  Numbers outside
the bounds count as the nearer bound, and bounds that leave no room between
them put every number at zero. -/
def placeBetween (low high n : Number) : Single :=
  if (high.compare? low).any Ordering.isLE then .zero
  else
    let place := (n - low) / (high - low)
    if place.compare? .zero == some .lt then .zero
    else if place.compare? .one == some .gt then .one
    else .ofNumber place

/-- The number that a feature makes of what was found. -/
def read? (kind : FeatureKind) (found : Value) : Option Single :=
  match kind with
  | .numeric low high _ => do
      let n ← finiteNumber? found
      return placeBetween (← low) (← high) n
  | .categorical categories _ => do
      let category ← found.matchText?
      let index ← categories.idxOf? category
      return .ofNat (index + 1) / .ofNat categories.length

/-! ## Learning -/

/-- A bound that takes in `n`, and whether it had to move.  `beyond` is the
side of the bound that is outside. -/
def widen (beyond : Ordering) (n : Number) (bound : Option Number) : Option Number × Bool :=
  if bound.all fun bound => n.compare? bound == some beyond then (some n, true) else (bound, false)

/-- A list of categories with one more, and whether it was new. -/
def extend (category : String) (categories : List String) : List String × Bool :=
  if categories.contains category then (categories, false) else (categories ++ [category], true)

/-- Take in what was found, and tell whether that changed anything. -/
def learn (found : Value) (kind : FeatureKind) : FeatureKind × Bool :=
  match kind with
  | .numeric low high false =>
      match finiteNumber? found with
      | some n =>
          let (low, lowMoved) := widen .lt n low
          let (high, highMoved) := widen .gt n high
          (.numeric low high false, lowMoved || highMoved)
      | none => (kind, false)
  | .categorical categories false =>
      match found.matchText? with
      | some category =>
          let (categories, isNew) := extend category categories
          (.categorical categories false, isNew)
      | none => (kind, false)
  | kind => (kind, false)

/-- The kind as it is stored.  A bound that is not finite has no stored form
and is lost. -/
def stored (kind : FeatureKind) : FeatureKind :=
  match kind with
  | .numeric low high fixed =>
      .numeric (low.filter Number.isFinite) (high.filter Number.isFinite) fixed
  | .categorical categories fixed => .categorical categories fixed

end FeatureKind

namespace Feature

/-- A number whose bounds are learned. -/
def numeric (dotted : String) : Feature where
  path := splitPath dotted
  kind := .numeric none none false

/-- A number between fixed bounds. -/
def numericRange (dotted : String) (low high : Number) : Feature where
  path := splitPath dotted
  kind := .numeric (some low) (some high) true

/-- A category whose list is learned. -/
def categorical (dotted : String) : Feature where
  path := splitPath dotted
  kind := .categorical [] false

/-- A category of a fixed list. -/
def categories (dotted : String) (categories : List String) : Feature where
  path := splitPath dotted
  kind := .categorical categories true

/-- The value of a feature for a record, if the record has what it needs. -/
def read? (feature : Feature) (record : Value) : Option Single :=
  (record.getPath? feature.path).bind feature.kind.read?

/-- Take in a record, and tell whether that changed anything. -/
def learn (record : Value) (feature : Feature) : Feature × Bool :=
  match record.getPath? feature.path with
  | some found =>
      let (kind, changed) := feature.kind.learn found
      ({ feature with kind := kind }, changed)
  | none => (feature, false)

/-- Every feature takes in a record.  Tells whether any of them changed. -/
def learnAll (record : Value) : List Feature -> List Feature × Bool
  | [] => ([], false)
  | feature :: rest =>
      let (feature, changed) := feature.learn record
      let (rest, restChanged) := learnAll record rest
      (feature :: rest, changed || restChanged)

/-- The feature as it is stored. -/
def stored (feature : Feature) : Feature :=
  { feature with kind := feature.kind.stored }

end Feature

end RecordIndex
