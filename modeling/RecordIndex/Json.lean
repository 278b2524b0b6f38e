import RecordIndex.Number.Text
import RecordIndex.Table
import RecordIndex.Text.Hexadecimal

namespace RecordIndex

/-!
# JSON

The interchange form of values and the form records are stored in.  A number
is an integer or a decimal by how it is spelled, and the fields of an object
are kept in ascending order of their names.

`Json.text` writes without any spaces.  Only the quote, the backslash and the
control characters are escaped; every other character stands for itself.  Both
the form and its text are those of the `serde_json` library.
-/

inductive Json where
  | null
  | bool (value : Bool)
  | integer (value : Int)
  | decimal (value : Number)
  | string (text : String)
  | array (items : List Json)
  | object (fields : List (String × Json))
deriving Inhabited

namespace Json

/-- How one character is written between quotes. -/
def escape (c : Char) : List Char :=
  if c = '"' then ['\\', '"']
  else if c = '\\' then ['\\', '\\']
  else if c = '\n' then ['\\', 'n']
  else if c = '\r' then ['\\', 'r']
  else if c = '\t' then ['\\', 't']
  else if c = '\x08' then ['\\', 'b']
  else if c = '\x0c' then ['\\', 'f']
  else if c.toNat < 32 then
    ['\\', 'u', '0', '0', Hexadecimal.digit (c.toNat / 16), Hexadecimal.digit (c.toNat % 16)]
  else [c]

/-- A string between quotes. -/
def quote (text : String) : String :=
  String.ofList ('"' :: text.toList.flatMap escape ++ ['"'])

/-- The text of a decimal.  JSON has no spelling for the infinities or for
what is not a number. -/
def decimalText (n : Number) : String :=
  if n.isFinite then n.writeFinite .scientific else "null"

mutual

/-- The JSON text of a value. -/
def text : Json -> String
  | .null => "null"
  | .bool value => if value then "true" else "false"
  | .integer value => Int.repr value
  | .decimal value => decimalText value
  | .string value => quote value
  | .array items => "[" ++ itemTexts items ++ "]"
  | .object fields => "\x7b" ++ fieldTexts fields ++ "\x7d"
termination_by structural json => json

/-- The items of an array, divided by commas. -/
def itemTexts : List Json -> String
  | [] => ""
  | [item] => text item
  | item :: rest => text item ++ "," ++ itemTexts rest
termination_by structural items => items

/-- The fields of an object, divided by commas. -/
def fieldTexts : List (String × Json) -> String
  | [] => ""
  | [(name, value)] => quote name ++ ":" ++ text value
  | (name, value) :: rest => quote name ++ ":" ++ text value ++ "," ++ fieldTexts rest
termination_by structural fields => fields

end

/-- A field of an object. -/
def field? (name : String) : Json -> Option Json
  | .object fields => Rows.get? name fields
  | _ => none

end Json

end RecordIndex
