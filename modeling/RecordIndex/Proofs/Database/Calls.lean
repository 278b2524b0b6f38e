import RecordIndex.Database.Queries
import RecordIndex.Proofs.Database.Requests

namespace RecordIndex

/-!
# Calls and answers

A client makes requests of a database, which may change it, and reads it.  A
range that answers a query is the client's from then on.  It is read on by
pulling it, so a pull is a call of its own, for the range as it is by then.
-/

/-- What a client calls for. -/
inductive Call where
  | request (request : Request)
  | get (key : String)
  | find (pattern : Pattern) (valueMatch : Option Pattern) (select : Option Projection)
      (options : IndexOptions)
  | findNear (query : VectorQuery) (valueMatch : Option Pattern) (select : Option Projection)
      (options : VectorOptions)
  | pull (range : IndexRange)
  | pullNear (range : VectorRange)
  | check

/-- What a client is told. -/
inductive Answer where
  | done (outcome : Except Error Unit)
  | flag (outcome : Except Error Bool)
  | key (outcome : Except Error (Option String))
  | count (outcome : Except Error Nat)
  | schema (outcome : Except Error (Option Schema))
  | entry (entry : Option Entry)
  | range (outcome : Except Error IndexRange)
  | nearRange (outcome : Except Error VectorRange)
  | hit (outcome : Except Error (Option (Hit Nat))) (range : IndexRange)
  | nearHit (outcome : Except Error (Option (Hit Single))) (range : VectorRange)
  | broken (outcome : Except Error (List String))

/-- What is seen of a schema.  Where its generator draws from is not. -/
def Schema.outline (schema : Schema) : Schema :=
  { schema with generator := .unique }

namespace Database

/-- The answer to a request. -/
def respond (database : Database) : Request -> Answer
  | .reopen config supply => .done ((openStore config database.store supply).map fun _ => ())
  | .put key value options => .key (database.put key value options).1
  | .patch key changes version ifVersion => .flag (database.patch key changes version ifVersion).1
  | .remove key ifVersion => .key (database.remove key ifVersion).1
  | .copy key destination options => .key (database.copy key destination options).1
  | .move key destination options => .key (database.move key destination options).1
  | .defineSchema typeName options =>
      .schema ((database.defineSchema typeName options).1.map fun schema => some schema.outline)
  | .getSchema typeName create =>
      .schema (.ok ((database.getSchema typeName create).1.map Schema.outline))
  | .reindexVectors typeName => .count (database.reindexVectors typeName).1
  | .newGenerator _ => .done (.ok ())

/-- The answer to a call. -/
def answer (database : Database) : Call -> Answer
  | .request request => database.respond request
  | .get key => .entry (database.get? key)
  | .find pattern valueMatch select options =>
      .range (database.findByIndex pattern valueMatch select options)
  | .findNear query valueMatch select options =>
      .nearRange (database.findByVector query valueMatch select options)
  | .pull range => .hit (database.pull range).1 (database.pull range).2
  | .pullNear range => .nearHit (database.pull range).1 (database.pull range).2
  | .check => .broken database.checkIntegrity

/-- The database behind a call. -/
def behind (database : Database) : Call -> Database
  | .request request => database.after request
  | _ => database

/-- The answers to calls that are made one after another. -/
def answers (database : Database) : List Call -> List Answer
  | [] => []
  | call :: rest => database.answer call :: (database.behind call).answers rest

end Database

end RecordIndex
