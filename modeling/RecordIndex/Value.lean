import RecordIndex.Number.Text
import RecordIndex.Table
import RecordIndex.Text.Integer

namespace RecordIndex

/-!
# Values

A record is a value: a scalar, or an array or object of further values.
Besides the kinds that JSON knows there are dates, expressions stored as data,
symbols, and `undefined`, which stands for a value that is not there.

The fields of an object are in ascending order of their names, and the items of
an array can be counted in 64 bits, as their positions are; `WellFormed` says so
at every depth, and every operation that builds a value keeps it.
-/

inductive Value where
  /-- An absent value. -/
  | undefined
  | null
  | bool (value : Bool)
  | number (value : Number)
  | string (text : String)
  /-- Milliseconds since the start of 1970. -/
  | date (millis : Int64)
  /-- A regular expression kept as data. -/
  | regExp (source flags : String)
  | symbol (name : String)
  | array (items : List Value)
  | object (fields : List (String × Value))
deriving Inhabited

namespace Value

def emptyObject : Value :=
  .object []

def isUndefined : Value -> Bool
  | .undefined => true
  | _ => false

def isObject : Value -> Bool
  | .object _ => true
  | _ => false

/-- Arrays and objects have children; every other value is a leaf. -/
def isContainer : Value -> Bool
  | .array _ => true
  | .object _ => true
  | _ => false

def string? : Value -> Option String
  | .string text => some text
  | _ => none

def number? : Value -> Option Number
  | .number value => some value
  | _ => none

/-! ## Equality -/

mutual

/-- Equality of stored data.  What is not a number equals itself, and both
zeros are equal. -/
def same : Value -> Value -> Bool
  | .undefined, .undefined => true
  | .null, .null => true
  | .bool a, .bool b => a == b
  | .number a, .number b => a.same b
  | .string a, .string b => a == b
  | .date a, .date b => a == b
  | .regExp source flags, .regExp source' flags' => source == source' && flags == flags'
  | .symbol a, .symbol b => a == b
  | .array items, .array items' => sameItems items items'
  | .object fields, .object fields' => sameFields fields fields'
  | _, _ => false
termination_by structural value => value

def sameItems : List Value -> List Value -> Bool
  | [], [] => true
  | item :: rest, item' :: rest' => same item item' && sameItems rest rest'
  | _, _ => false
termination_by structural items => items

def sameFields : List (String × Value) -> List (String × Value) -> Bool
  | [], [] => true
  | (name, value) :: rest, (name', value') :: rest' =>
      name == name' && same value value' && sameFields rest rest'
  | _, _ => false
termination_by structural fields => fields

end

instance : BEq Value :=
  ⟨same⟩

/-! ## Children -/

/-- A child by its name, or by its position in an array. -/
def get? (key : String) : Value -> Option Value
  | .object fields => Rows.get? key fields
  | .array items => (IntegerText.natural? key).bind fun index => items[index]?
  | _ => none

/-- The value reached by following a path of names. -/
def getPath? : List String -> Value -> Option Value
  | [], value => some value
  | segment :: rest, value => (value.get? segment).bind (getPath? rest)

/-- Items with their positions as names, counted from `index`. -/
def numbered (index : Nat) : List Value -> List (String × Value)
  | [] => []
  | item :: rest => (Nat.repr index, item) :: numbered (index + 1) rest

/-- Every child with its name; the items of an array are named by position. -/
def children : Value -> List (String × Value)
  | .object fields => fields
  | .array items => numbered 0 items
  | _ => []

/-- Set a field of an object.  Any other value gives way to an object that
holds this field alone. -/
def withField (value : Value) (key : String) (field : Value) : Value :=
  match value with
  | .object fields => .object (Rows.insert key field fields)
  | _ => .object [(key, field)]

/-- Set a field of an object and leave any other value alone. -/
def setField (value : Value) (key : String) (field : Value) : Value :=
  match value with
  | .object fields => .object (Rows.insert key field fields)
  | other => other

/-! ## Text -/

/-- The text that an expression is matched against.  Numbers and truth values
are matched through their text; other values have none. -/
def matchText? : Value -> Option String
  | .string text => some text
  | .number value => some value.text
  | .bool value => some (if value then "true" else "false")
  | _ => none

/-! ## Well-formedness -/

mutual

/-- Every object, at every depth, lists its fields in ascending order, and every
array has as many items at most as there are positions. -/
def WellFormed : Value -> Prop
  | .array items => items.length ≤ 0x10000000000000000 ∧ WellFormedItems items
  | .object fields => Rows.Ascending fields ∧ WellFormedFields fields
  | _ => True
termination_by structural value => value

def WellFormedItems : List Value -> Prop
  | [] => True
  | item :: rest => WellFormed item ∧ WellFormedItems rest
termination_by structural items => items

def WellFormedFields : List (String × Value) -> Prop
  | [] => True
  | (_, value) :: rest => WellFormed value ∧ WellFormedFields rest
termination_by structural fields => fields

end

end Value

end RecordIndex
