import RecordIndex.Database.Schemas
import RecordIndex.Query.Range

namespace RecordIndex

/-!
# Querying

A query names the records it looks for by a pattern or by a vector, and says
what is handed out of them.  The result is a range, which reads the database
as it is pulled.
-/

namespace Database

/-- What decides on the terms of a query.  The paths that the type of the query
declares prune them. -/
def queryDeriver (database : Database) (typeName : Option String) : Deriver where
  declared := (typeName.bind database.registry.get?).bind Schema.indexedPaths
  tokenizer := database.config.tokenizer?

/-- The terms of a pattern. -/
def queryTerms (database : Database) (pattern : Pattern) (typeName : Option String) :
    List QueryTerm :=
  (database.queryDeriver typeName).queryTerms pattern

/-- The search for the terms of a pattern. -/
def search (database : Database) (pattern : Pattern) (options : IndexOptions) : IndexMatches :=
  .forTerms (database.queryTerms pattern options.typeName) options
    database.config.tokenizer?.isSome

/-- What is done with the candidates of an index query.  The candidates of a
strict query are checked against the pattern itself unless another check is
given. -/
def indexPage (pattern : Pattern) (valueMatch : Option Pattern) (select : Option Projection)
    (options : IndexOptions) : Page where
  valueMatch := valueMatch.or (if options.isRanked then none else some pattern)
  select
  offset := options.offset
  limit := options.limit

/-- The records that match a pattern through the indexes. -/
def findByIndex (database : Database) (pattern : Pattern) (valueMatch : Option Pattern)
    (select : Option Projection) (options : IndexOptions) : Except Error IndexRange := do
  options.validate
  IndexRange.ofMatches database.config.scanBatch database.store (database.search pattern options)
    options.sortable (indexPage pattern valueMatch select options)

/-- The vector that distances are measured from. -/
def queryVector (schema : Option Schema) (query : VectorQuery) : Except Error FeatureVector :=
  match query with
  | .vector places => .ok places
  | .value record =>
      match schema with
      | some schema => .ok (schema.vector record)
      | none => .error .vectorQueryWithoutType

/-- The records whose vectors lie near the one of the query. -/
def findByVector (database : Database) (query : VectorQuery) (valueMatch : Option Pattern)
    (select : Option Projection) (options : VectorOptions) : Except Error VectorRange := do
  options.validate
  let schema ← database.vectorSchema options.typeName
  let vector ← queryVector schema query
  VectorRange.ofScan database.config.scanBatch database.store (.forQuery vector options)
    ⟨valueMatch, select, options.offset, options.limit⟩

/-- The next hit of a range, read from the database as it is now. -/
def pull {S Mark : Type} [Source S Mark] (database : Database) (range : Range S) :
    Except Error (Option (Hit Mark)) × Range S :=
  range.next database.config.scanBatch database.store

end Database

end RecordIndex
