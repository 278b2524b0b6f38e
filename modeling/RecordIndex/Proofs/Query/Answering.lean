import RecordIndex.Database.Queries
import RecordIndex.Proofs.Query.Finding

namespace RecordIndex

/-!
# Answers are found

A record that holds an answer to a term is found for it.  The answer lies in the
range of the plan, and where an entry finishes the scan no later leaf of the path
matches, so the scan is not finished before it has come to the answer.
-/

namespace Database

variable {database : Database}

/-! ## Records -/

/-- The value of every record could have been stored by itself. -/
theorem Orderly.isStored (orderly : database.Orderly) {key : String} {record : StoredRecord}
    (isRecord : database.store.records.get? key = some record) : record.value.IsStored := by
  rcases (orderly.kept key record isRecord).isEncoded with ⟨value, keepUndefined, isBody⟩
  refine ⟨value, keepUndefined, ?_⟩
  rw [StoredRecord.value, isBody]

/-- The identity of a record begins with the name of its type. -/
theorem Orderly.hasType (orderly : database.Orderly) {key typeName : String}
    {record : StoredRecord} (isRecord : database.store.records.get? key = some record)
    (isTyped : record.typeName = some typeName) :
    TermScan.hasType (some typeName) key = true := by
  have placed := (orderly.kept key record isRecord).isPlaced
  rw [isTyped] at placed
  exact (Store.isPrefixOf_iff _ _).mpr ((Store.isPlaced_iff key typeName).mp placed)

/-- The records of a type are indexed by what decides on its queries. -/
theorem Orderly.derivedTerms_eq (orderly : database.Orderly) {key typeName : String}
    {record : StoredRecord} (isRecord : database.store.records.get? key = some record)
    (isTyped : record.typeName = some typeName) :
    database.derivedTerms record =
      (database.queryDeriver (some typeName)).recordTerms record.value := by
  have isKnown := (orderly.kept key record isRecord).isKnown typeName isTyped
  rcases Option.isSome_iff_exists.mp isKnown with ⟨schema, isSchema⟩
  unfold derivedTerms
  rw [isTyped]
  dsimp only
  have sameDeriver : database.queryDeriver (some typeName) = database.deriver schema := by
    unfold queryDeriver deriver
    rw [Option.bind_some, isSchema]
    rfl
  rw [isSchema, sameDeriver]
  rfl

/-- Derived terms tell scalars that could have been stored. -/
theorem Orderly.scalar_of_mem_derivedTerms (orderly : database.Orderly) {key : String}
    {record : StoredRecord} (isRecord : database.store.records.get? key = some record)
    {term : Term} (member : term ∈ database.derivedTerms record) :
    ∃ (deriver : Deriver) (scalar : Value), deriver.tokenizer = database.config.tokenizer? ∧
      scalar.IsStored ∧ term.leaf ∈ deriver.leafParts scalar := by
  unfold derivedTerms at member
  split at member
  · rename_i typeName _
    rcases Deriver.scalar_of_mem_termsAt Value.inherited_isStored
      (orderly.isStored isRecord) member with ⟨scalar, isStored, isLeaf⟩
    exact ⟨_, scalar, rfl, isStored, isLeaf⟩
  · cases member

/-! ## Terms that are answered -/

/-- Where strings are kept whole, a test that is done in the order of leaves and
is done with the leaf of a stored record matches none that is larger. -/
theorem Orderly.ne_matched_of_done (orderly : database.Orderly)
    (untokenized : database.config.tokenizer? = none) {test : Value -> Verdict}
    (inOrder : Pattern.EndsInOrder test) {other : Term} {id : String}
    (isIndexed : database.Indexes other id) {value : Value} (isStored : value.IsStored)
    {leaf : KeyPart} (isLeaf : value.leafPart? = some leaf)
    (less : compare other.leaf.encode leaf.encode = .lt)
    (done : test (Value.ofLeafPart other.leaf.keyed) = .done) : test value ≠ .matched := by
  rcases isIndexed with ⟨record, isRecord, isOther⟩
  rcases orderly.scalar_of_mem_derivedTerms isRecord isOther with
    ⟨deriver, scalar, isTokenizer, isStored', isLeaf'⟩
  rw [untokenized] at isTokenizer
  have isPart := Deriver.leafPart?_of_mem_leafParts isTokenizer isLeaf'
  rw [isStored'.ofLeafPart isPart] at done
  exact inOrder scalar value isStored' isStored ⟨_, _, isPart, isLeaf, less⟩ done

/-- A record of a type that is found for a term holds a term that satisfies it. -/
theorem Orderly.held_of_found (orderly : database.Orderly) (holds : database.IndexesHold)
    {key typeName : String} {record : StoredRecord}
    (isRecord : database.store.records.get? key = some record)
    (isTyped : record.typeName = some typeName) {term : QueryTerm}
    (found : key ∈ TermScan.finds database.store (some typeName)
      database.config.tokenizer?.isSome term) :
    ∃ held ∈ (database.queryDeriver (some typeName)).recordTerms record.value,
      term.acceptsPath held.path = true ∧
        term.leaf.verdict database.config.tokenizer?.isSome held.leaf.keyed = .matched := by
  rw [← orderly.derivedTerms_eq isRecord isTyped]
  exact Database.held_of_found holds isRecord found

/-- A record that holds an answer to a term is found for it. -/
theorem mem_finds_of_answers (orderly : database.Orderly) (holds : database.IndexesHold)
    {deriver : Deriver} (isTokenizer : deriver.tokenizer = database.config.tokenizer?)
    {id : String} {record : StoredRecord}
    (isRecord : database.store.records.get? id = some record) {term : QueryTerm} {held : Term}
    (isHeld : held ∈ database.derivedTerms record) (answers : deriver.Answers term held)
    {typeName : Option String} (isTyped : TermScan.hasType typeName id = true) :
    id ∈ TermScan.finds database.store typeName database.config.tokenizer?.isSome term := by
  have reaches := answers.reaches database.Indexes id
    fun untokenized pattern _ definite other id' isIndexed value isStored isLeaf less done =>
      orderly.ne_matched_of_done (isTokenizer.symm.trans untokenized) definite.endsInOrder
        isIndexed isStored isLeaf less done
  rw [isTokenizer] at reaches
  exact mem_finds_of_held holds isRecord isHeld isTyped reaches

/-! ## The first record -/

theorem queryDeriver_after_firstPut :
    (blank.after firstPut).queryDeriver (some "P") = ⟨none, none⟩ := by
  unfold queryDeriver
  rw [Option.bind_some, Table.get?, registry_after_firstPut, config_after_firstPut]
  rfl

end Database

end RecordIndex
