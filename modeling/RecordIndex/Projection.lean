import RecordIndex.Pattern

namespace RecordIndex

/-!
# Projections

A projection says which parts of a matched record a query hands out.  It keeps
or omits what it is applied to, and a nested projection does so property by
property.
-/

/-- Where a projected value sits in its record. -/
structure ProjectionContext where
  root : Value
  parent : Option Value
  key : Option String

inductive Projection where
  /-- Keep the value as it is. -/
  | all
  /-- Keep the value if it equals the literal. -/
  | literal (value : Value)
  /-- Keep what the first group of the expression matches in a string. -/
  | regex (expression : Regex)
  /-- Keep what a function makes of the value, if anything. -/
  | function (apply : Value -> ProjectionContext -> Option Value)
  /-- Keep the listed properties, each projected further. -/
  | nested (fields : List (PatternKey × Projection))

namespace Projection

def object : Projection :=
  .nested []

/-- True keeps a value; false keeps it only if it is false. -/
def ofBool (keep : Bool) : Projection :=
  if keep then .all else .literal (.bool false)

/-- Project one more property.  Any projection that is not nested gives way to
one of this property alone. -/
def withField (projection : Projection) (key : PatternKey) (field : Projection) : Projection :=
  match projection with
  | .nested fields => .nested (fields ++ [(key, field)])
  | _ => .nested [(key, field)]

def isFunction : Projection -> Bool
  | .function _ => true
  | _ => false

/-- The children that a key chooses.  A missing name is offered as undefined
to functions alone, which may make something of it. -/
def chosenChildren (key : PatternKey) (offersMissing : Bool) (value : Value) :
    List (String × Value) :=
  match key with
  | .name name =>
      match value.get? name with
      | some child => [(name, child)]
      | none => if offersMissing then [(name, .undefined)] else []
  | .dynamic expression => value.children.filter fun (name, _) => expression.isMatch name

/-- Put an item at its position, after undefined items where there are none
yet. -/
def placeItem : Nat -> Value -> List Value -> List Value
  | 0, item, [] => [item]
  | 0, item, _ :: rest => item :: rest
  | index + 1, item, [] => .undefined :: placeItem index item []
  | index + 1, item, first :: rest => first :: placeItem index item rest

/-- The items of an array from the names they are kept under.  Of two under
one name the later one counts. -/
def assembleItems (kept : List (String × Value)) : List Value :=
  kept.foldl (fun items (name, item) =>
    match IntegerText.natural? name with
    | some index => placeItem index item items
    | none => items) []

/-- The fields of an object from the names they are kept under. -/
def assembleFields (kept : List (String × Value)) : List (String × Value) :=
  kept.foldl (fun fields (name, field) => Rows.insert name field fields) []

/-- What is kept of a container, in a container of the same kind.  Items stay
at their positions, and any other value is omitted. -/
def assemble (value : Value) (kept : List (String × Value)) : Option Value :=
  match value with
  | .object _ => some (.object (assembleFields kept))
  | .array _ => some (.array (assembleItems kept))
  | _ => none

mutual

/-- What a projection keeps of a value at some place of a record. -/
def selectAt : Projection -> Value -> ProjectionContext -> Option Value
  | .all, value, _ => some value
  | .literal expected, value, _ => if expected == value then some value else none
  | .regex expression, value, _ => (value.string?.bind expression.firstGroup?).map .string
  | .function apply, value, context => apply value context
  | .nested fields, value, context => assemble value (selectFields fields value context.root)
termination_by structural projection => projection

/-- The properties that are kept of a value, in the order of the projection. -/
def selectFields : List (PatternKey × Projection) -> Value -> Value -> List (String × Value)
  | [], _, _ => []
  | (key, projection) :: rest, value, root =>
      (chosenChildren key projection.isFunction value).filterMap (fun (name, child) =>
        (projection.selectAt child ⟨root, some value, some name⟩).map fun kept => (name, kept)) ++
        selectFields rest value root
termination_by structural fields => fields

end

/-- What a projection keeps of a whole value, if anything. -/
def select (projection : Projection) (value : Value) : Option Value :=
  projection.selectAt value ⟨value, none, none⟩

end Projection

end RecordIndex
