import RecordIndex.Key
import RecordIndex.Value.Tagged

namespace RecordIndex

/-!
# Index leaves

The part of an index key that stands for a scalar.  Null, truth values,
numbers and strings have parts of their own; what JSON cannot carry is indexed
as the text of its tag.  Infinities have a place in the order of numbers and
are numbers here; only what is not a number goes by its tag.
-/

namespace Value

/-- The part that stands for a scalar.  Containers and undefined have none. -/
def leafPart? : Value -> Option KeyPart
  | .undefined => none
  | .array _ => none
  | .object _ => none
  | .null => some .null
  | .bool value => some (.bool value)
  | .number n => if n.isNaN then (tag? (.number n)).map .text else some (.number n)
  | .string text => some (.text text)
  | scalar => scalar.tag?.map .text

/-- The value that a part stands for. -/
def ofLeafPart : KeyPart -> Value
  | .null => .null
  | .bool value => .bool value
  | .number value => .number value
  | .text text => decodeString text
  | .segment name => decodeString name

end Value

end RecordIndex
