import RecordIndex.Distance
import RecordIndex.Schema
import RecordIndex.Table.Scan
import RecordIndex.Term

namespace RecordIndex

/-!
# The store

What a database keeps: the records, two indexes on their terms, their vectors,
the schemas of their types, and the settings that the indexes were built
under.  Each of these is an ordered table.

Both indexes hold the same terms under differently arranged keys.  A change of
a record reaches them as a difference of term counts, so terms that a record
keeps are left alone.

Two things are assumed of the storage.  A record is kept as the tree of its
body, so the text that is written for a body is assumed to read back as just
that body, the last digit of every number included.  And versions are counted
without a bound, so the 64 bits that a version is written with are assumed to
be enough: no version reaches `2 ^ 64`.
-/

/-- A record as it is kept. -/
structure StoredRecord where
  /-- A 64-bit number that is assumed not to run over. -/
  version : Nat
  typeName : Option String
  /-- What the text of the body is assumed to read back as. -/
  body : Json

namespace StoredRecord

/-- The value that the record holds. -/
def value (record : StoredRecord) : Value :=
  Value.decode record.body

/-- The record has the version that is asked for, if one is. -/
def hasVersion (wanted : Option Nat) (record : Option StoredRecord) : Bool :=
  wanted.all fun version => record.any fun record => record.version == version

/-- The text of the record.  The type is left out of an untyped one. -/
def text (record : StoredRecord) : String :=
  let typeText :=
    match record.typeName with
    | some typeName => "\"type\":" ++ Json.quote typeName ++ ","
    | none => ""
  "\x7b\"version\":" ++ Nat.repr record.version ++ "," ++ typeText ++
    "\"value\":" ++ record.body.text ++ "\x7d"

end StoredRecord

/-- How the keys of an index are arranged. -/
inductive IndexOrder where
  /-- Path, leaf, record. -/
  | byPath
  /-- Leaf, path, record. -/
  | byValue
deriving DecidableEq

/-- The key of a term of a record in an index. -/
def Term.key (order : IndexOrder) (term : Term) (id : String) : Key :=
  match order with
  | .byPath => term.propertyKey id
  | .byValue => term.valueKey id

/-- The entry of a key of an index. -/
def IndexEntry.ofKey? (order : IndexOrder) (key : Key) : Except Error IndexEntry :=
  match order with
  | .byPath => ofPropertyKey? key
  | .byValue => ofValueKey? key

structure Store where
  records : Table String StoredRecord
  byPath : Table Key Nat
  byValue : Table Key Nat
  /-- The vectors of records that have at least one place filled. -/
  vectors : Table String FeatureVector
  schemas : Table String Schema
  settings : Table String String

/-! ## Differences of terms -/

/-- What becomes of the terms of a record when it changes. -/
structure TermDelta where
  removed : List TermCount
  added : List TermCount
  /-- Terms that stay with another count. -/
  recounted : List TermCount

namespace TermDelta

/-- The difference between two sets of terms. -/
def between (old new : TermCounts) : TermDelta where
  removed := (old.rows.filter fun row => !new.contains row.1).map Prod.snd
  added := (new.rows.filter fun row => !old.contains row.1).map Prod.snd
  recounted := (new.rows.filter fun row =>
    (old.get? row.1).any fun known => known.count != row.2.count).map Prod.snd

/-- How many terms a difference touches, which is what a change reports. -/
structure Sizes where
  added : Nat
  removed : Nat
  recounted : Nat
deriving DecidableEq

def sizes (delta : TermDelta) : Sizes where
  added := delta.added.length
  removed := delta.removed.length
  recounted := delta.recounted.length

/-- Carry the difference over to an index. -/
def apply (delta : TermDelta) (order : IndexOrder) (id : String) (index : Table Key Nat) :
    Table Key Nat :=
  let kept := index.eraseAll (delta.removed.map fun entry => entry.term.key order id)
  kept.insertAll ((delta.added ++ delta.recounted).map fun entry =>
    (entry.term.key order id, entry.count))

end TermDelta

namespace Store

/-- A store that holds nothing. -/
def empty : Store where
  records := .empty
  byPath := .empty
  byValue := .empty
  vectors := .empty
  schemas := .empty
  settings := .empty

instance : Inhabited Store :=
  ⟨empty⟩

/-- The index of an arrangement. -/
def index (store : Store) (order : IndexOrder) : Table Key Nat :=
  match order with
  | .byPath => store.byPath
  | .byValue => store.byValue

/-! ## Key ranges -/

/-- The first key that the identities of a type can have. -/
def typePrefix (typeName : String) : String :=
  typeName ++ "@"

/-- The identities of a type begin with its name and an at sign.  The letter A
directly follows that sign, so the range ends before the name with an A. -/
def typeRange (typeName : String) : Bound String × Bound String :=
  (.included (typePrefix typeName), .excluded (typeName ++ "A"))

/-- The identities of a type, or all keys. -/
def keyRange (typeName : Option String) : Bound String × Bound String :=
  match typeName with
  | some typeName => typeRange typeName
  | none => (.unbounded, .unbounded)

/-- The records among the identities of a type that are bound to the type. -/
def recordsOfType (store : Store) (typeName : String) : List (String × StoredRecord) :=
  let (start, stop) := typeRange typeName
  (store.records.range start stop).filter fun row => row.2.typeName == some typeName

/-! ## Writing -/

def putRecord (store : Store) (key : String) (record : StoredRecord) : Store :=
  { store with records := store.records.insert key record }

def removeRecord (store : Store) (key : String) : Store :=
  { store with records := store.records.erase key }

/-- Bring the entries of a record in both indexes from old terms to new ones. -/
def changeTerms (store : Store) (id : String) (old new : TermCounts) : Store :=
  let delta := TermDelta.between old new
  { store with
    byPath := delta.apply .byPath id store.byPath
    byValue := delta.apply .byValue id store.byValue }

/-- A place of a vector as it is stored, where no number means an empty place. -/
def storedPlace (place : Option Single) : Option Single :=
  place.filter fun x => !x.isNaN

/-- Keep the vector of a record.  A vector without any place filled is not
kept, and takes an older one away. -/
def putVector (store : Store) (key : String) (vector : FeatureVector) : Store :=
  if vector.any Option.isSome then
    { store with vectors := store.vectors.insert key (vector.map storedPlace) }
  else
    { store with vectors := store.vectors.erase key }

def removeVector (store : Store) (key : String) : Store :=
  { store with vectors := store.vectors.erase key }

def putSchema (store : Store) (schema : Schema) : Store :=
  { store with schemas := store.schemas.insert schema.typeName schema.stored }

def putSchemas (store : Store) (schemas : List Schema) : Store :=
  schemas.foldl putSchema store

end Store

end RecordIndex
