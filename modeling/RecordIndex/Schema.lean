import RecordIndex.Feature
import RecordIndex.IdGenerator
import RecordIndex.Table

namespace RecordIndex

/-!
# Schemas

A schema says how the records of one type are treated: which property holds a
record's identity, which paths are indexed, which features make up its vector
and where generated identities come from.
-/

structure Schema where
  typeName : String
  /-- The property that holds a record's identity. -/
  idProperty : String
  /-- The paths to index, or nothing to index every path. -/
  indexedPaths : Option (List (List String))
  features : List Feature
  /-- The type that this one took its options from. -/
  parent : Option String
  generator : IdGenerator

/-- What a definition says about a schema.  Options that are not given leave
the schema as it is. -/
structure SchemaOptions where
  idProperty : Option String := none
  /-- Paths written with dots. -/
  indexedPaths : Option (List String) := none
  features : Option (List Feature) := none
  parent : Option String := none
  generator : Option IdGenerator := none

namespace Schema

/-- The property that holds an identity unless another one is named. -/
def defaultIdProperty : String :=
  "#"

/-- The schema of a type of which nothing has been said. -/
def ofType (typeName : String) : Schema where
  typeName := typeName
  idProperty := defaultIdProperty
  indexedPaths := none
  features := []
  parent := none
  generator := .unique

/-- The schema under the options of a definition. -/
def withOptions (schema : Schema) (options : SchemaOptions) : Schema where
  typeName := schema.typeName
  idProperty := options.idProperty.getD schema.idProperty
  indexedPaths := (options.indexedPaths.map (List.map splitPath)).or schema.indexedPaths
  features := options.features.getD schema.features
  parent := options.parent.or schema.parent
  generator := options.generator.getD schema.generator

def hasFeatures (schema : Schema) : Bool :=
  !schema.features.isEmpty

/-! ## Identities -/

/-- A new identity: the name of the type and a drawn name behind an at sign. -/
def generateId (schema : Schema) (supply : IdSupply) : String × IdSupply :=
  let (name, supply) := supply.draw schema.generator
  (schema.typeName ++ "@" ++ name, supply)

/-- The identity that a record carries. -/
def identity? (schema : Schema) (record : Value) : Option Value :=
  match record with
  | .object fields => (Rows.get? schema.idProperty fields).filter fun id => !id.isUndefined
  | _ => none

/-! ## Vectors -/

/-- The vector of a record.  A feature that the record lacks leaves its place
empty, so places line up across records. -/
def vector (schema : Schema) (record : Value) : List (Option Single) :=
  schema.features.map fun feature => feature.read? record

/-- Take in a record, and tell whether that changed any feature. -/
def learn (schema : Schema) (record : Value) : Schema × Bool :=
  let (features, changed) := Feature.learnAll record schema.features
  ({ schema with features := features }, changed)

/-! ## The stored form -/

/-- The schema as it is stored and loaded again.  Generators are not stored,
so a loaded schema draws unique names. -/
def stored (schema : Schema) : Schema :=
  { schema with
    features := schema.features.map Feature.stored
    generator := .unique }

end Schema

/-- The known schemas by the names of their types. -/
abbrev Registry := Table String Schema

namespace Registry

/-- Add a schema in place of the one its type had. -/
def define (registry : Registry) (schema : Schema) : Registry :=
  registry.insert schema.typeName schema

/-- Add every one of a list of schemas. -/
def defineAll (registry : Registry) (schemas : List Schema) : Registry :=
  schemas.foldl define registry

/-- The schema of a type, which is added if the type is not known yet, and
whether it had to be. -/
def getOrCreate (registry : Registry) (typeName : String) : (Schema × Bool) × Registry :=
  match registry.get? typeName with
  | some schema => ((schema, false), registry)
  | none => ((.ofType typeName, true), registry.define (.ofType typeName))

/-- The schema that a definition starts from: what the type has already, or
else what its parent has. -/
def base (registry : Registry) (typeName : String) (parent : Option String) : Schema :=
  match registry.get? typeName with
  | some schema => schema
  | none =>
      match parent.bind registry.get? with
      | some inherited => { inherited with typeName := typeName }
      | none => .ofType typeName

/-- The schema that a definition leads to.  The registry stays as it is. -/
def resolve (registry : Registry) (typeName : String) (options : SchemaOptions) : Schema :=
  (registry.base typeName options.parent).withOptions options

end Registry

end RecordIndex
