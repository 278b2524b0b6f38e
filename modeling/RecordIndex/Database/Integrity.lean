import RecordIndex.Database

namespace RecordIndex

/-!
# Checking the indexes

The indexes can be derived again from the records.  The check compares what is
there with what should be there, record by record.
-/

/-- The rows of one record in both indexes. -/
structure RecordRows where
  byPath : List (Key × Nat)
  byValue : List (Key × Nat)
deriving DecidableEq

namespace RecordRows

/-- A record that is not indexed has no rows. -/
def none : RecordRows where
  byPath := []
  byValue := []

/-- The rows that the terms of a record should have. -/
def ofTerms (id : String) (terms : TermCounts) : RecordRows :=
  let rows := fun order =>
    ((Table.empty : Table Key Nat).insertAll
      (terms.values.map fun entry => (entry.term.key order id, entry.count))).rows
  ⟨rows .byPath, rows .byValue⟩

end RecordRows

namespace Database

/-- The rows of an index with the records they belong to. -/
def owners (order : IndexOrder) (rows : List (Key × Nat)) :
    Except Error (List (String × (Key × Nat))) :=
  rows.mapM fun row => (IndexEntry.ofKey? order row.1).map fun entry => (entry.id, row)

/-- The rows that belong to a record. -/
def rowsOf (id : String) (owned : List (String × (Key × Nat))) : List (Key × Nat) :=
  (owned.filter fun row => row.1 == id).map Prod.snd

/-- The terms that a stored record should be indexed under. -/
def expectedTerms (database : Database) (record : StoredRecord) : TermCounts :=
  match record.typeName with
  | some typeName =>
      database.terms ((database.registry.get? typeName).getD (.ofType typeName)) record.value
  | none => .empty

/-- The rows that a record should have. -/
def expectedRows (database : Database) (id : String) : RecordRows :=
  match database.store.records.get? id with
  | some record => .ofTerms id (database.expectedTerms record)
  | none => .none

/-- The identities in ascending order, each of them once. -/
def distinct (ids : List String) : List String :=
  (ids.foldl (fun table id => table.insert id ()) (Table.empty : Table String Unit)).keys

/-- The records whose index entries are not those that they should have. -/
def checkIntegrity (database : Database) : Except Error (List String) := do
  let byPath ← owners .byPath database.store.byPath.rows
  let byValue ← owners .byValue database.store.byValue.rows
  let ids := distinct
    (byPath.map Prod.fst ++ byValue.map Prod.fst ++ database.store.records.keys)
  return ids.filter fun id =>
    decide ((⟨rowsOf id byPath, rowsOf id byValue⟩ : RecordRows) ≠ database.expectedRows id)

end Database

end RecordIndex
