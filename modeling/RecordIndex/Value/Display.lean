import RecordIndex.Text.Quoted
import RecordIndex.Value.Tagged

namespace RecordIndex

/-!
# Values as text

How a value reads in messages.  Containers are shown in their stored form,
with undefined parts kept.
-/

namespace Value

def display : Value -> String
  | .undefined => "undefined"
  | .null => "null"
  | .bool value => if value then "true" else "false"
  | .number value => value.text
  | .string text => Quoted.quote text
  | .date millis => "Date(" ++ Int.repr millis.toInt ++ ")"
  | .regExp source flags => "/" ++ source ++ "/" ++ flags
  | .symbol name => "Symbol(" ++ name ++ ")"
  | .array items => (encode true (.array items)).text
  | .object fields => (encode true (.object fields)).text

end Value

end RecordIndex
