import RecordIndex.Error
import RecordIndex.Tokenizer

namespace RecordIndex

/-!
# Configuration

The options that hold for as long as a database is open.  Two of them shape
the keys of the indexes, so they are stored with the database, and it can only
be opened again under the same ones.
-/

structure Config where
  /-- Index strings by their tokens. -/
  fullText : Bool := true
  /-- Keep the vectors of records. -/
  vectors : Bool := false
  stopWords : List String := Tokenizer.defaultStopWords
  /-- Store undefined fields rather than leave them out. -/
  keepUndefined : Bool := false
  /-- How many rows a scan reads at a time. -/
  scanBatch : Nat := 256
deriving DecidableEq

namespace Config

def validate (config : Config) : Except Error Unit :=
  if config.scanBatch = 0 then .error .emptyScanBatch else .ok ()

/-- What splits the strings of records, if they are indexed by tokens. -/
def tokenizer? (config : Config) : Option Tokenizer :=
  if config.fullText then some (.ofStopWords config.stopWords) else none

/-- The settings that the indexes depend on.  The order of the stop words does
not matter. -/
def indexSettings (config : Config) : List (String × String) :=
  let words := config.stopWords.mergeSort fun first second => (compare first second).isLE
  [("fulltext", if config.fullText then "true" else "false"),
    ("stop_words", (Json.array (words.map .string)).text)]

/-! ## Reading -/

def readBool? : Json -> Option Bool
  | .bool value => some value
  | _ => none

def readText? : Json -> Option String
  | .string text => some text
  | _ => none

def readTexts? : Json -> Option (List String)
  | .array items => items.mapM readText?
  | _ => none

/-- A natural number below `2 ^ 64` that is written as an integer. -/
def readCount? : Json -> Option Nat
  | .integer value => if 0 ≤ value && value < 0x10000000000000000 then some value.toNat else none
  | _ => none

/-- An option that is not there keeps its default, and one that is malformed
is refused. -/
def option? {Data : Type} (read? : Json -> Option Data) (default : Data) (given : Option Json) :
    Option Data :=
  match given with
  | some json => read? json
  | none => some default

/-- The configuration of options that are looked up by name and position. -/
def ofOptions? (given : String -> Nat -> Option Json) : Option Config := do
  let defaults : Config := {}
  return {
    fullText := ← option? readBool? defaults.fullText (given "fulltext" 0)
    vectors := ← option? readBool? defaults.vectors (given "vectors" 1)
    stopWords := ← option? readTexts? defaults.stopWords (given "stop_words" 2)
    keepUndefined := ← option? readBool? defaults.keepUndefined (given "keep_undefined" 3)
    scanBatch := ← option? readCount? defaults.scanBatch (given "scan_batch" 4) }

/-- The configuration that is written as an object, or as an array of the
options in their order.  Names that are no options are passed over, but an
array has no room for more than there are. -/
def ofJson (json : Json) : Except Error Config :=
  let config :=
    match json with
    | .object fields => ofOptions? fun name _ => Rows.get? name fields
    | .array items => if items.length ≤ 5 then ofOptions? fun _ place => items[place]? else none
    | _ => none
  match config with
  | some config => .ok config
  | none => .error .malformedJson

end Config

end RecordIndex
