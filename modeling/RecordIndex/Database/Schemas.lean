import RecordIndex.Database.Transaction

namespace RecordIndex

/-!
# Defining schemas

A definition adds options to the schema of a type.  When that changes which
paths are indexed, the entries of the records of the type follow in the same
transaction.  Vectors do not follow by themselves; they can be made anew.
-/

namespace Write

/-- Bring the index entries of the records of a type from the paths of one
schema to those of another. -/
def reindexType (database : Database) (old new : Schema) : Write Unit :=
  modifyStore fun store =>
    (store.recordsOfType new.typeName).foldl (fun store row =>
      store.changeTerms row.1 (database.terms old row.2.value) (database.terms new row.2.value))
      store

def defineSchema (database : Database) (schema : Schema) : Write Unit := do
  updateSchema schema
  match database.registry.get? schema.typeName with
  | some old =>
      if old.indexedPaths ≠ schema.indexedPaths then
        reindexType database old schema
  | none => return

end Write

namespace Database

/-- Add a generator of names. -/
def newGenerator (database : Database) (nth : Nat -> String) : IdGenerator × Database :=
  let (generator, supply) := database.supply.newGenerator nth
  (generator, { database with supply })

/-- Define the schema of a type, or add to it. -/
def defineSchema (database : Database) (typeName : String) (options : SchemaOptions) :
    Except Error Schema × Database :=
  let schema := database.registry.resolve typeName options
  let (result, database) := database.write (Write.defineSchema database schema)
  (result.map fun _ => schema, database)

/-- The schema of a type.  One that is not known is created if asked for. -/
def getSchema (database : Database) (typeName : String) (create : Bool) :
    Option Schema × Database :=
  match database.registry.get? typeName with
  | some schema => (some schema, database)
  | none =>
      if create then
        let ((schema, _), registry) := database.registry.getOrCreate typeName
        (some schema, { database with registry, store := database.store.putSchema schema })
      else (none, database)

/-- The schema that a vector query about a type goes by.  Vectors must be kept
by the database, and the type must have features. -/
def vectorSchema (database : Database) (typeName : Option String) :
    Except Error (Option Schema) :=
  if !database.config.vectors then .error .vectorsOff
  else
    match typeName with
    | none => .ok none
    | some typeName =>
        match (database.registry.get? typeName).filter Schema.hasFeatures with
        | some schema => .ok (some schema)
        | none => .error (.noVectors typeName)

/-- Make the vectors of all records under the keys of a type anew, and count
them. -/
def reindexVectors (database : Database) (typeName : String) : Except Error Nat × Database :=
  match database.vectorSchema (some typeName) with
  | .error cause => (.error cause, database)
  | .ok none => (.error (.noVectors typeName), database)
  | .ok (some schema) =>
      let (start, stop) := Store.typeRange typeName
      let rows := database.store.records.range start stop
      let store := rows.foldl (fun store row =>
        store.putVector row.1 (schema.vector row.2.value)) database.store
      (.ok rows.length, { database with store })

end Database

end RecordIndex
