import RecordIndex.Number

namespace RecordIndex

/-!
# Index keys

The keys of the indexes are rows of bytes, and the order of the bytes is the
order of what they encode.  A key is a sequence of parts.  Each part begins
with a tag that tells its type, so keys sort by type first; within a type they
sort by value.

The bytes of a text are followed by a zero and a one, and a zero inside the
text is followed by 255.  So the end of a text sorts before anything a longer
text can hold, and the encoding of a sequence of parts is the beginning of the
encodings of exactly those sequences that begin with the same parts.
-/

/-- The bytes of a key. -/
abbrev Key := List UInt8

/-- One component of a key. -/
inductive KeyPart where
  | null
  | bool (value : Bool)
  | number (value : Number)
  | text (content : String)
  /-- A name along a path.  Names are kept apart from texts, so that a path is
  never taken for a value. -/
  | segment (name : String)
deriving DecidableEq, Inhabited

namespace KeyPart

def isSegment : KeyPart -> Bool
  | .segment _ => true
  | _ => false

/-! ## Numbers -/

/-- The word whose only bit is the sign bit. -/
def signBit : UInt64 :=
  0x8000000000000000

/-- The bits of a number changed so that they sort as the numbers do.  Positive
numbers get their sign bit set, and negative ones have all their bits
inverted.  Both zeros have the bits of the positive one. -/
def sortableBits (n : Number) : UInt64 :=
  let bits := if n.equals .zero then 0 else n.bits
  if bits >>> 63 = 1 then ~~~bits else bits ^^^ signBit

/-- The number of sortable bits. -/
def ofSortableBits (sortable : UInt64) : Number :=
  ⟨if sortable >>> 63 = 1 then sortable ^^^ signBit else ~~~sortable⟩

/-- Eight bytes, the most significant one first. -/
def wordBytes (word : UInt64) : Key :=
  [(word >>> 56).toUInt8, (word >>> 48).toUInt8, (word >>> 40).toUInt8, (word >>> 32).toUInt8,
    (word >>> 24).toUInt8, (word >>> 16).toUInt8, (word >>> 8).toUInt8, word.toUInt8]

/-- The word that bytes spell, the most significant one first. -/
def wordOfBytes (bytes : Key) : UInt64 :=
  bytes.foldl (fun word byte => (word <<< 8) ||| byte.toUInt64) 0

/-! ## Texts -/

/-- The bytes of a text with its zeros marked. -/
def escape : Key -> Key
  | [] => []
  | byte :: rest => if byte = 0 then 0 :: 255 :: escape rest else byte :: escape rest

/-- A text up to its end mark, and what follows.  A zero that is neither an
escape nor an end mark is refused. -/
def unescape? : Key -> Option (Key × Key)
  | [] => none
  | [_] => none
  | byte :: mark :: rest =>
      if byte = 0 then
        if mark = 255 then (unescape? rest).map fun (bytes, behind) => (0 :: bytes, behind)
        else if mark = 1 then some ([], rest)
        else none
      else (unescape? (mark :: rest)).map fun (bytes, behind) => (byte :: bytes, behind)

def textBytes (content : String) : Key :=
  escape content.toUTF8.toList ++ [0, 1]

/-- A text and what follows its end mark.  The bytes must be UTF-8. -/
def text? (bytes : Key) : Option (String × Key) :=
  (unescape? bytes).bind fun (bytes, behind) =>
    (String.fromUTF8? ⟨bytes.toArray⟩).map fun content => (content, behind)

/-! ## Parts -/

/-- The tag that a part begins with. -/
def tag : KeyPart -> UInt8
  | .null => 1
  | .bool false => 2
  | .bool true => 3
  | .number _ => 4
  | .text _ => 5
  | .segment _ => 6

/-- The bytes behind the tag. -/
def payload : KeyPart -> Key
  | .null => []
  | .bool _ => []
  | .number value => wordBytes (sortableBits value)
  | .text content => textBytes content
  | .segment name => textBytes name

def encode (part : KeyPart) : Key :=
  part.tag :: part.payload

/-- A number and what follows its eight bytes. -/
def number? (bytes : Key) : Option (Number × Key) :=
  if bytes.length < 8 then none
  else some (ofSortableBits (wordOfBytes (bytes.take 8)), bytes.drop 8)

/-- The part that begins with a tag, and what follows it. -/
def ofTag? (tag : UInt8) (bytes : Key) : Option (KeyPart × Key) :=
  if tag = 1 then some (.null, bytes)
  else if tag = 2 then some (.bool false, bytes)
  else if tag = 3 then some (.bool true, bytes)
  else if tag = 4 then (number? bytes).map fun (value, rest) => (.number value, rest)
  else if tag = 5 then (text? bytes).map fun (content, rest) => (.text content, rest)
  else if tag = 6 then (text? bytes).map fun (name, rest) => (.segment name, rest)
  else none

/-- The first key of all those that begin with a part of this type.  Both
truth values count as one type. -/
def typeStart (part : KeyPart) : Key :=
  match part with
  | .bool _ => [2]
  | part => [part.tag]

/-- The first key behind all those that begin with a part of this type. -/
def typeEnd (part : KeyPart) : Key :=
  match part with
  | .bool _ => [4]
  | part => [part.tag + 1]

end KeyPart

namespace Key

/-- The key of a sequence of parts. -/
def encode (parts : List KeyPart) : Key :=
  parts.flatMap KeyPart.encode

/-- The parts of a key of at most `length` bytes. -/
def decodeWithin? : Nat -> Key -> Option (List KeyPart)
  | _, [] => some []
  | 0, _ :: _ => none
  | length + 1, tag :: bytes => do
      let (part, rest) ← KeyPart.ofTag? tag bytes
      return part :: (← decodeWithin? length rest)

/-- The parts of a key, unless its bytes are not the encoding of any. -/
def decode? (key : Key) : Option (List KeyPart) :=
  decodeWithin? key.length key

/-- The least key above every key that begins with this one, if there is one.
Trailing bytes that cannot grow are dropped. -/
def prefixEnd? : Key -> Option Key
  | [] => none
  | byte :: rest =>
      match prefixEnd? rest with
      | some rest => some (byte :: rest)
      | none => if byte < 255 then some [byte + 1] else none

end Key

end RecordIndex
