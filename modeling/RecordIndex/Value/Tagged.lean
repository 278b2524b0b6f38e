import RecordIndex.Json
import RecordIndex.Value

namespace RecordIndex

/-!
# The stored form of values

Records are stored as JSON.  A value that JSON cannot carry is written as a
string with a reserved tag: `@Date(…)` around the milliseconds, `@RegExp(…)`
around the literal `/source/flags`, `@Symbol(…)` around the name, and the
words `@NaN`, `@Infinity`, `@-Infinity` and `@undefined`.  Reading recognizes
the tags again, and a string that carries none stands for itself.  Strings
that happen to spell a tag are not escaped, so they read back as what the tag
means.
-/

namespace Value

/-! ## Expression literals -/

/-- The flags that an expression literal may carry. -/
def isLiteralFlag (c : Char) : Bool :=
  "gimsuyx".toList.contains c

/-- Split at the last occurrence of a character. -/
def splitAtLast? (mark : Char) : List Char -> Option (List Char × List Char)
  | [] => none
  | c :: rest =>
      match splitAtLast? mark rest with
      | some (before, after) => some (c :: before, after)
      | none => if c = mark then some ([], rest) else none

/-- The source and the flags of a literal `/source/flags`.  The last slash
ends the source, so a source may contain slashes. -/
def splitLiteral? (literal : List Char) : Option (String × String) :=
  match literal with
  | '/' :: rest =>
      match splitAtLast? '/' rest with
      | some (source, flags) =>
          if flags.all isLiteralFlag then some (String.ofList source, String.ofList flags) else none
      | none => none
  | _ => none

/-! ## Writing -/

/-- The tag of a number that JSON has no literal for. -/
def numberTag (n : Number) : String :=
  if n.isNaN then "@NaN" else if n.isNegative then "@-Infinity" else "@Infinity"

def dateTag (millis : Int64) : String :=
  "@Date(" ++ Int.repr millis.toInt ++ ")"

def regExpTag (source flags : String) : String :=
  "@RegExp(/" ++ source ++ "/" ++ flags ++ ")"

def symbolTag (name : String) : String :=
  "@Symbol(" ++ name ++ ")"

def undefinedTag : String :=
  "@undefined"

/-- The tagged string of a scalar that JSON cannot carry. -/
def tag? : Value -> Option String
  | .undefined => some undefinedTag
  | .number n => if n.isFinite then none else some (numberTag n)
  | .date millis => some (dateTag millis)
  | .regExp source flags => some (regExpTag source flags)
  | .symbol name => some (symbolTag name)
  | _ => none

/-- A whole number in the exact range is stored as an integer, any other
finite number as a decimal. -/
def encodeNumber (n : Number) : Json :=
  if n.isFinite then
    match n.toInt? with
    | some i => if i.natAbs ≤ Number.maxExactInteger then .integer i else .decimal n
    | none => .decimal n
  else .string (numberTag n)

mutual

/-- The stored form of a value.  Unless `keepUndefined` is set, an undefined
field is left out and an undefined item becomes null. -/
def encode (keepUndefined : Bool) : Value -> Json
  | .undefined => .string undefinedTag
  | .null => .null
  | .bool value => .bool value
  | .number value => encodeNumber value
  | .string text => .string text
  | .date millis => .string (dateTag millis)
  | .regExp source flags => .string (regExpTag source flags)
  | .symbol name => .string (symbolTag name)
  | .array items => .array (encodeItems keepUndefined items)
  | .object fields => .object (encodeFields keepUndefined fields)
termination_by structural value => value

def encodeItems (keepUndefined : Bool) : List Value -> List Json
  | [] => []
  | item :: rest =>
      (if item.isUndefined && !keepUndefined then .null else encode keepUndefined item) ::
        encodeItems keepUndefined rest
termination_by structural items => items

def encodeFields (keepUndefined : Bool) : List (String × Value) -> List (String × Json)
  | [] => []
  | (name, value) :: rest =>
      if value.isUndefined && !keepUndefined then encodeFields keepUndefined rest
      else (name, encode keepUndefined value) :: encodeFields keepUndefined rest
termination_by structural fields => fields

end

/-! ## Reading -/

/-- What stands between an opening tag and a closing parenthesis at the very
end. -/
def tagBody? (opening : String) (text : List Char) : Option (List Char) :=
  if opening.toList.isPrefixOf text then
    let body := text.drop opening.length
    if body.getLast? = some ')' then some body.dropLast else none
  else none

/-- The date that a string stands for. -/
def dateTag? (text : List Char) : Option Value :=
  ((tagBody? "@Date(" text).bind IntegerText.integer?).map .date

/-- The expression that a string stands for. -/
def regExpTag? (text : List Char) : Option Value :=
  ((tagBody? "@RegExp(" text).bind splitLiteral?).map fun (source, flags) =>
    .regExp source flags

/-- The symbol that a string stands for. -/
def symbolTag? (text : List Char) : Option Value :=
  (tagBody? "@Symbol(" text).map fun name => .symbol (String.ofList name)

/-- The value that a stored string stands for. -/
def decodeString (text : String) : Value :=
  if text = undefinedTag then .undefined
  else if text = "@NaN" then .number Number.nan
  else if text = "@Infinity" then .number Number.infinity
  else if text = "@-Infinity" then .number Number.negativeInfinity
  else
    let cs := text.toList
    match dateTag? cs with
    | some value => value
    | none =>
        match regExpTag? cs with
        | some value => value
        | none => (symbolTag? cs).getD (.string text)

mutual

/-- The value of a stored form. -/
def decode : Json -> Value
  | .null => .null
  | .bool value => .bool value
  | .integer value => .number (Number.ofInt value)
  | .decimal value => .number value
  | .string text => decodeString text
  | .array items => .array (decodeItems items)
  | .object fields => .object (decodeFields fields)
termination_by structural json => json

def decodeItems : List Json -> List Value
  | [] => []
  | item :: rest => decode item :: decodeItems rest
termination_by structural items => items

def decodeFields : List (String × Json) -> List (String × Value)
  | [] => []
  | (name, value) :: rest => (name, decode value) :: decodeFields rest
termination_by structural fields => fields

end

mutual

/-- The value of plain JSON, in which a tagged string is only a string. -/
def ofJson : Json -> Value
  | .null => .null
  | .bool value => .bool value
  | .integer value => .number (Number.ofInt value)
  | .decimal value => .number value
  | .string text => .string text
  | .array items => .array (itemsOfJson items)
  | .object fields => .object (fieldsOfJson fields)
termination_by structural json => json

def itemsOfJson : List Json -> List Value
  | [] => []
  | item :: rest => ofJson item :: itemsOfJson rest
termination_by structural items => items

def fieldsOfJson : List (String × Json) -> List (String × Value)
  | [] => []
  | (name, value) :: rest => (name, ofJson value) :: fieldsOfJson rest
termination_by structural fields => fields

end

end Value

end RecordIndex
