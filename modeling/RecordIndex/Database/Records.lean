import RecordIndex.Database.Transaction
import RecordIndex.Value.Merge

namespace RecordIndex

/-!
# Writing records

Every write of a record keeps its index entries and its vector in line with
it.  A record that is bound to a type lives under a key that begins with the
name of the type, and carries that key as its identity.

A write may ask for the version that it expects to find.  If it finds another
one, it writes nothing and says so in its result.
-/

structure PutOptions where
  /-- Bind the record to this type. -/
  typeName : Option String := none
  /-- The version to store, instead of the one after the last. -/
  version : Option Nat := none
  /-- Write only if this version is stored. -/
  ifVersion : Option Nat := none

structure CopyOptions where
  /-- Take the place of a record that is there. -/
  overwrite : Bool := false
  /-- The version to store, instead of the one after the last. -/
  version : Option Nat := none
  /-- Copy only if this version of the source is stored. -/
  ifVersion : Option Nat := none

/-- A record that is about to be stored. -/
structure PendingRecord where
  key : String
  value : Value
  typeName : Option String
  /-- The version to store, instead of the one after the last. -/
  version : Option Nat
  /-- The record that was under the key so far. -/
  previous : Option StoredRecord

namespace Schema

/-- Make a record carry its key as its identity.  Another identity is not
overwritten, and a record that is no object carries none. -/
def bindIdentity (schema : Schema) (key : String) (record : Value) : Except Error Value :=
  match schema.identity? record with
  | some (.string id) => if id = key then .ok record else .error (.conflict key id)
  | some id => .error (.conflict key (id.matchText?.getD id.display))
  | none => .ok (record.setField schema.idProperty (.string key))

/-- Make a record carry its key in place of any identity it had. -/
def rebindIdentity (schema : Schema) (key : String) (record : Value) : Value :=
  record.setField schema.idProperty (.string key)

/-- The identity that a new record asks for, if it asks for one. -/
def wantedKey (schema : Schema) (record : Value) : Except Error (Option String) :=
  match schema.identity? record with
  | some (.string id) => .ok (some id)
  | some id => .error (.identityNotString id)
  | none => .ok none

end Schema

/-- The key lies among the identities of the type. -/
def checkKeyType (key typeName : String) : Except Error Unit :=
  if (Store.typePrefix typeName).isPrefixOf key then .ok () else .error (.keyType key typeName)

namespace Write

/-! ## The parts of a write -/

/-- The terms that a stored record is indexed under. -/
def storedTerms (database : Database) (record : Option StoredRecord) : Write TermCounts :=
  match record with
  | none => return .empty
  | some record =>
      match record.typeName with
      | none => return .empty
      | some typeName => return database.terms (← schema database typeName) record.value

/-- The vector that a value gets under its schema, which learns from the value
first.  Without a schema, or when vectors are off, there is none. -/
def learnedVector (database : Database) (schema : Option Schema) (value : Value) :
    Write FeatureVector :=
  match schema with
  | none => return []
  | some schema =>
      if database.config.vectors && schema.hasFeatures then do
        let (learned, changed) := schema.learn value
        if changed then
          updateSchema learned
        return learned.vector value
      else return []

/-- Store a record in place of the one that was there, and bring its index
entries and its vector in line with it.  Its body is kept as a tree and its
version as a number without a bound; see the assumptions on the storage. -/
def putRecord (database : Database) (pending : PendingRecord) : Write Unit := do
  let oldTerms ← storedTerms database pending.previous
  let schema ← pending.typeName.mapM (schema database)
  let newTerms := (schema.map fun schema => database.terms schema pending.value).getD .empty
  let vector ← learnedVector database schema pending.value
  let version :=
    (pending.version.or (pending.previous.map fun record => record.version + 1)).getD 1
  let record : StoredRecord :=
    { version
      typeName := pending.typeName
      body := pending.value.encode database.config.keepUndefined }
  modifyStore fun store =>
    ((store.putVector pending.key vector).putRecord pending.key record).changeTerms pending.key
      oldTerms newTerms

/-- Remove a record with its index entries and its vector. -/
def removeRecord (database : Database) (key : String) (previous : StoredRecord) :
    Write Unit := do
  let oldTerms ← storedTerms database (some previous)
  modifyStore fun store =>
    ((store.removeRecord key).removeVector key).changeTerms key oldTerms .empty

/-- The key to store a new value under, when none is given.  A value of a type
is stored under the identity that it carries, and any other value under a
drawn key. -/
def chooseKey (database : Database) (typeName : Option String) (value : Value) :
    Write String :=
  match typeName with
  | none => generateKey
  | some typeName => do
      let schema ← schema database typeName
      match ← (schema.wantedKey value : Except Error (Option String)) with
      | some key => return key
      | none => generateId schema

/-- The key to store a new value under. -/
def putKey (database : Database) (key : Option String) (typeName : Option String)
    (value : Value) : Write String :=
  match key with
  | some key => return key
  | none => chooseKey database typeName value

/-- The key that a record is copied to. -/
def copyKey (database : Database) (destination : Option String) (typeName : Option String) :
    Write String :=
  match destination, typeName with
  | some destination, _ => return destination
  | none, none => generateKey
  | none, some typeName => do generateId (← schema database typeName)

/-- A record of the type, if there is one, may be stored under the key. -/
def checkPlace (key : String) (typeName : Option String) : Except Error Unit :=
  match typeName with
  | none => .ok ()
  | some typeName => checkKeyType key typeName

/-- The value of a record with its identity. -/
def bindIdentity (database : Database) (key : String) (typeName : Option String)
    (value : Value) : Write Value :=
  match typeName with
  | none => return value
  | some typeName => do (← schema database typeName).bindIdentity key value

/-- The value of a copy with its own identity. -/
def rebindIdentity (database : Database) (key : String) (typeName : Option String)
    (value : Value) : Write Value :=
  match typeName with
  | none => return value
  | some typeName => return (← schema database typeName).rebindIdentity key value

/-- A record that is there is only overwritten if that is asked for. -/
def checkVacant (key : String) (existing : Option StoredRecord) (overwrite : Bool) :
    Except Error Unit :=
  if existing.isSome && !overwrite then .error (.alreadyExists key) else .ok ()

/-! ## What is about to be stored

Each write that stores a record first finds out what to store and where.
Nothing is stored when another version is there than the one asked for. -/

def pendingPut (database : Database) (key : Option String) (value : Value)
    (options : PutOptions) : Write (Option PendingRecord) := do
  let key ← putKey database key options.typeName value
  let previous ← record? key
  let typeName := (options.typeName.or (previous.bind StoredRecord.typeName)).or
    (database.typeOfKey? key)
  checkPlace key typeName
  let value ← bindIdentity database key typeName value
  if StoredRecord.hasVersion options.ifVersion previous then
    return some { key, value, typeName, version := options.version, previous }
  else return none

def pendingPatch (database : Database) (key : String) (changes : Value)
    (version ifVersion : Option Nat) : Write (Option PendingRecord) := do
  match ← record? key with
  | none => return none
  | some previous =>
      if StoredRecord.hasVersion ifVersion (some previous) then
        let value ← bindIdentity database key previous.typeName
          (changes.mergeOnto previous.value)
        return some
          { key, value, typeName := previous.typeName, version, previous := some previous }
      else return none

/-- The copy of a record, and its source. -/
def pendingCopy (database : Database) (key : String) (destination : Option String)
    (options : CopyOptions) : Write (Option (PendingRecord × StoredRecord)) := do
  match ← record? key with
  | none => return none
  | some source =>
      if StoredRecord.hasVersion options.ifVersion (some source) then
        let key ← copyKey database destination source.typeName
        checkPlace key source.typeName
        let previous ← record? key
        checkVacant key previous options.overwrite
        let value ← rebindIdentity database key source.typeName source.value
        return some
          ({ key, value, typeName := source.typeName, version := options.version, previous },
            source)
      else return none

/-! ## The writes -/

def put (database : Database) (key : Option String) (value : Value) (options : PutOptions) :
    Write (Option String) := do
  match ← pendingPut database key value options with
  | none => return none
  | some pending =>
      putRecord database pending
      return some pending.key

def patch (database : Database) (key : String) (changes : Value) (version ifVersion : Option Nat) :
    Write Bool := do
  match ← pendingPatch database key changes version ifVersion with
  | none => return false
  | some pending =>
      putRecord database pending
      return true

def remove (database : Database) (key : String) (ifVersion : Option Nat) :
    Write (Option String) := do
  match ← record? key with
  | none => return none
  | some previous =>
      if StoredRecord.hasVersion ifVersion (some previous) then
        removeRecord database key previous
        return some key
      else return none

/-- Copy a record.  The result is the key of the copy and the source. -/
def copyRecord (database : Database) (key : String) (destination : Option String)
    (options : CopyOptions) : Write (Option (String × StoredRecord)) := do
  match ← pendingCopy database key destination options with
  | none => return none
  | some (pending, source) =>
      putRecord database pending
      return some (pending.key, source)

def copy (database : Database) (key : String) (destination : Option String)
    (options : CopyOptions) : Write (Option String) :=
  return (← copyRecord database key destination options).map Prod.fst

/-- Copy a record and remove the source. -/
def move (database : Database) (key : String) (destination : Option String)
    (options : CopyOptions) : Write (Option String) := do
  match ← copyRecord database key destination options with
  | none => return none
  | some (destination, source) =>
      removeRecord database key source
      return some destination

end Write

namespace Database

/-- Store a value and give back its key.  Without a key, a value of a type
gets the identity that it carries or a drawn one, and a value without a type a
drawn key.  Nothing is written, and no key given back, when another version is
stored than the one asked for. -/
def put (database : Database) (key : Option String) (value : Value) (options : PutOptions) :
    Except Error (Option String) × Database :=
  database.write (Write.put database key value options)

/-- Merge changes into a record.  False says that there is no record of the
version asked for. -/
def patch (database : Database) (key : String) (changes : Value) (version ifVersion : Option Nat) :
    Except Error Bool × Database :=
  database.write (Write.patch database key changes version ifVersion)

/-- Remove a record and give back its key, unless there is none of the version
asked for. -/
def remove (database : Database) (key : String) (ifVersion : Option Nat) :
    Except Error (Option String) × Database :=
  database.write (Write.remove database key ifVersion)

/-- Copy a record to another key, or to a drawn one, and give back that key,
unless there is no record of the version asked for. -/
def copy (database : Database) (key : String) (destination : Option String)
    (options : CopyOptions) : Except Error (Option String) × Database :=
  database.write (Write.copy database key destination options)

/-- Copy a record and remove the source, in one transaction.  A record that is
moved to where it is stays as it is. -/
def move (database : Database) (key : String) (destination : Option String)
    (options : CopyOptions) : Except Error (Option String) × Database :=
  if destination = some key then
    (.ok ((database.get? key).map Entry.key), database)
  else
    database.write (Write.move database key destination options)

end Database

end RecordIndex
