import RecordIndex.Config
import RecordIndex.Store
import RecordIndex.Term.Derivation

namespace RecordIndex

/-!
# Databases

An open database is a store together with what is known while it is open: its
configuration, the registry of schemas and the supply of generated names.  The
store is all that outlives it; the registry is loaded again when the store is
opened.
-/

structure Database where
  config : Config
  store : Store
  registry : Registry
  supply : IdSupply

/-- A record as it is handed out. -/
structure Entry where
  key : String
  value : Value
  version : Nat
  typeName : Option String

namespace Database

/-! ## Opening -/

/-- Check one setting against the store, or store it if it is not there. -/
def settle (store : Store) (setting : String × String) : Except Error Store :=
  match store.settings.get? setting.1 with
  | some stored =>
      if stored = setting.2 then .ok store
      else .error (.settingChanged setting.1 stored setting.2)
  | none => .ok { store with settings := store.settings.insert setting.1 setting.2 }

/-- Open a store. -/
def openStore (config : Config) (store : Store) (supply : IdSupply) : Except Error Database := do
  config.validate
  let store ← config.indexSettings.foldlM settle store
  return { config, store, registry := Registry.defineAll .empty store.schemas.values, supply }

/-! ## Looking up -/

/-- What decides on the terms of the records of a schema. -/
def deriver (database : Database) (schema : Schema) : Deriver where
  declared := schema.indexedPaths
  tokenizer := database.config.tokenizer?

/-- The terms that a value is indexed under as a record of a schema. -/
def terms (database : Database) (schema : Schema) (value : Value) : TermCounts :=
  (database.deriver schema).recordCounts value

/-- The record under a key. -/
def get? (database : Database) (key : String) : Option Entry :=
  (database.store.records.get? key).map fun record =>
    ⟨key, record.value, record.version, record.typeName⟩

/-- The name in front of the first at sign of a key, if a type is known by
that name. -/
def typeOfKey? (database : Database) (key : String) : Option String :=
  if key.toList.contains '@' then
    let name := String.ofList (key.toList.takeWhile fun c => c != '@')
    (database.registry.get? name).map Schema.typeName
  else none

end Database

end RecordIndex
