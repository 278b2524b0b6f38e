import RecordIndex.Database

namespace RecordIndex

/-!
# Transactions

Every operation that writes does so in one transaction.  A transaction works
on a copy of the store and gathers the schemas it makes or changes.  If it
succeeds, the store is replaced and the schemas are stored and published; if
it fails, the database stays as it was.  Only names that were drawn from the
supply stay drawn in either case.
-/

/-- The state of a transaction. -/
structure Transaction where
  store : Store
  /-- The schemas that this transaction made or changed. -/
  schemas : Registry
  supply : IdSupply

/-- An action within a transaction. -/
abbrev Write := ExceptT Error (StateM Transaction)

namespace Write

/-- Run an action on the store. -/
def modifyStore (change : Store -> Store) : Write Unit :=
  modify fun txn => { txn with store := change txn.store }

def record? (key : String) : Write (Option StoredRecord) :=
  return (← get).store.records.get? key

/-- Make or change a schema. -/
def updateSchema (schema : Schema) : Write Unit :=
  modify fun txn => { txn with schemas := txn.schemas.define schema }

/-- The schema of a type as this transaction sees it.  A type that is not
known gets a schema without any options. -/
def schema (database : Database) (typeName : String) : Write Schema := do
  match (← get).schemas.get? typeName with
  | some schema => return schema
  | none =>
      match database.registry.get? typeName with
      | some schema => return schema
      | none =>
          updateSchema (.ofType typeName)
          return .ofType typeName

/-- Draw an identity for a record of a type. -/
def generateId (schema : Schema) : Write String :=
  modifyGet fun txn =>
    let (id, supply) := schema.generateId txn.supply
    (id, { txn with supply })

/-- Draw a key for a record without a type. -/
def generateKey : Write String :=
  modifyGet fun txn =>
    let (key, supply) := txn.supply.draw .unique
    (key, { txn with supply })

end Write

namespace Database

/-- Run an action as a transaction. -/
def write {Result : Type} (database : Database) (action : Write Result) :
    Except Error Result × Database :=
  match action.run ⟨database.store, .empty, database.supply⟩ with
  | (.ok result, txn) =>
      let schemas := txn.schemas.values
      (.ok result,
        { database with
          store := txn.store.putSchemas schemas
          registry := database.registry.defineAll schemas
          supply := txn.supply })
  | (.error cause, txn) => (.error cause, { database with supply := txn.supply })

end Database

end RecordIndex
