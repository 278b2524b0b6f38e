import RecordIndex.Proofs.Database.Actions
import RecordIndex.Proofs.Feature.Learned

namespace RecordIndex

/-!
# What schemas learn

Before a value is stored, the schema of its type learns from it, and then makes
its vector.  A schema that has learned something is one that the transaction
changes, so when the vector is made the transaction sees the very schema that
makes it.
-/

/-- A schema that nothing has changed about is the schema that it was. -/
theorem Schema.learn_of_unchanged {schema : Schema} {record : Value}
    (unchanged : (schema.learn record).2 = false) : (schema.learn record).1 = schema :=
  congrArg (fun features => { schema with features }) (Feature.learnAll_of_unchanged unchanged)

/-! ## What a transaction sees -/

namespace Transaction

/-- The schema of a type that the transaction has changed or else found. -/
def schema? (database : Database) (txn : Transaction) (typeName : String) : Option Schema :=
  (txn.schemas.get? typeName).or (database.registry.get? typeName)

/-- The vector of a value, by the schema that its type has by now. -/
def vectorOf (database : Database) (txn : Transaction) (typeName : Option String)
    (value : Value) : FeatureVector :=
  if database.config.vectors then
    ((typeName.bind (txn.schema? database)).map fun schema => schema.vector value).getD []
  else []

theorem schema?_define (database : Database) (txn : Transaction) (schema : Schema) :
    schema? database { txn with schemas := txn.schemas.define schema } schema.typeName =
      some schema := by
  have found : (txn.schemas.define schema).get? schema.typeName = some schema :=
    Table.get?_insert_self txn.schemas schema.typeName schema
  unfold schema?
  rw [found]
  rfl

end Transaction

namespace Write

open Transaction

variable {database : Database} {before : Transaction -> Prop}

/-- The schema that is asked for is seen from then on. -/
theorem ensures_schema_seen (typeName : String) :
    Ensures (schema database typeName) before
      fun schema txn => txn.schema? database typeName = some schema := by
  unfold schema
  refine Ensures.withState fun txn _ => ?_
  split
  · rename_i schema own
    refine Ensures.pure ?_
    rintro final rfl
    unfold schema?
    rw [own]
    rfl
  · rename_i notOwn
    split
    · rename_i schema registered
      refine Ensures.pure ?_
      rintro final rfl
      unfold schema?
      rw [notOwn, registered]
      rfl
    · have updates : Ensures (updateSchema (.ofType typeName)) (fun start => start = txn)
          fun _ txn => txn.schema? database typeName = some (.ofType typeName) :=
        Ensures.modify fun txn _ => schema?_define database txn (.ofType typeName)
      exact updates.bind fun _ => Ensures.pure fun _ => id

theorem ensures_mapM_schema_seen (typeName : Option String) :
    Ensures (typeName.mapM (schema database)) before
      fun schema txn => typeName.bind (txn.schema? database) = schema := by
  cases typeName with
  | none => exact Ensures.pure fun _ _ => rfl
  | some name => exact Ensures.map (ensures_schema_seen name)

/-- The vector of a value is made by the schema that is seen then. -/
theorem ensures_learnedVector_seen {typeName : Option String} {schema : Option Schema}
    (isName : schema.map Schema.typeName = typeName) (value : Value) :
    Ensures (learnedVector database schema value)
      (fun txn => typeName.bind (txn.schema? database) = schema)
      fun vector txn => vector = txn.vectorOf database typeName value := by
  subst isName
  unfold learnedVector
  split
  · refine Ensures.pure fun txn _ => ?_
    unfold vectorOf
    exact (ite_self []).symm
  · rename_i schema
    have made {txn : Transaction} {learned : Schema} (keepsVectors : database.config.vectors = true)
        (isSeen : txn.schema? database schema.typeName = some learned) :
        learned.vector value =
          txn.vectorOf database ((some schema).map Schema.typeName) value := by
      unfold vectorOf
      rw [if_pos keepsVectors, Option.map_some, Option.bind_some, isSeen]
      rfl
    split
    · rename_i isCharted
      rcases Bool.and_eq_true_iff.mp isCharted with ⟨keepsVectors, _⟩
      dsimp only
      split
      · have updates : Ensures (updateSchema (schema.learn value).1)
            (fun txn => (some schema.typeName).bind (txn.schema? database) = some schema)
            fun _ txn => txn.schema? database schema.typeName = some (schema.learn value).1 :=
          Ensures.modify fun txn _ => schema?_define database txn (schema.learn value).1
        exact updates.bind fun _ => Ensures.pure fun txn isSeen => made keepsVectors isSeen
      · rename_i unchanged
        rw [Schema.learn_of_unchanged ((Bool.not_eq_true _).mp unchanged)]
        exact Ensures.pure fun txn isSeen => made keepsVectors isSeen
    · rename_i notCharted
      refine Ensures.pure fun txn isSeen => ?_
      have isSeen : txn.schema? database schema.typeName = some schema := isSeen
      unfold vectorOf
      split
      · rename_i keepsVectors
        -- Then the schema has no features, and makes a vector without places.
        have noFeatures : schema.features = [] := by
          rw [keepsVectors, Bool.true_and] at notCharted
          exact List.isEmpty_iff.mp ((Bool.not_eq_false' _).mp ((Bool.not_eq_true _).mp notCharted))
        rw [Option.map_some, Option.bind_some, isSeen, Option.map_some, Option.getD_some]
        unfold Schema.vector
        rw [noFeatures]
        rfl
      · rfl

end Write

end RecordIndex
