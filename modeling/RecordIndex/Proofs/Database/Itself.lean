import RecordIndex.Proofs.Database.Scores
import RecordIndex.Proofs.Query.Yielding
import RecordIndex.Proofs.Term.Itself

namespace RecordIndex

/-!
# Looking for a record by its own value

A record matches the pattern of its value, so a strict query by this pattern
yields it if it is found for every term.  Where everything is indexed it is,
unless the value holds an expression that compiles: the index has the expression
as data, the query looks for strings that it matches, and so nothing is found,
although the check of the whole pattern would have accepted the record.
-/

namespace Database

variable {database : Database} {key typeName : String} {record : StoredRecord}

/-- No record is found by an expression where it holds one as data. -/
theorem not_mem_finds_of_isRegExp (orderly : database.Orderly) (holds : database.IndexesHold)
    (wellFormed : record.value.WellFormed)
    (isRecord : database.store.records.get? key = some record)
    (isTyped : record.typeName = some typeName) {names : List String} {source flags : String}
    (isReached : record.value.getPath? names = some (.regExp source flags)) (regex : Regex) :
    key ∉ TermScan.finds database.store (some typeName) database.config.tokenizer?.isSome
      ⟨names.map .name, .regex regex⟩ := by
  intro found
  rcases orderly.held_of_found holds isRecord isTyped found with ⟨held, isHeld, accepts, matched⟩
  have isNamed := QueryTerm.isNamed_map names (.regex regex)
  rw [(QueryTerm.acceptsPath_iff isNamed held.path).mp accepts] at isReached
  exact Deriver.not_matched_of_isRegExp wellFormed (orderly.isStored isRecord) isHeld isReached
    regex matched

/-- A record is found for each term of its own value exactly when no expression
in the value compiles. -/
theorem mem_finds_itself_iff (orderly : database.Orderly) (holds : database.IndexesHold)
    (wellFormed : record.value.WellFormed)
    (isRecord : database.store.records.get? key = some record)
    (isTyped : record.typeName = some typeName)
    (everything : (database.queryDeriver (some typeName)).declared = none)
    (isObject : record.value.isObject = true) (plain : record.value.PlainNamed) :
    (∀ term ∈ database.queryTerms (.ofValue record.value) (some typeName),
      key ∈ TermScan.finds database.store (some typeName) database.config.tokenizer?.isSome
        term) ↔ record.value.Inert := by
  constructor
  · intro found path source flags isReached
    cases compiles : Regex.compile? source flags with
    | none => rfl
    | some regex =>
        exfalso
        rcases Deriver.exists_regex_term everything compiles wellFormed plain isReached [] with
          ⟨names, isReached', member⟩
        have isTerm : ⟨names.map .name, .regex regex⟩ ∈
            database.queryTerms (.ofValue record.value) (some typeName) := by
          unfold queryTerms
          rw [Deriver.queryTerms_of_isObject _ isObject]
          exact member
        exact not_mem_finds_of_isRegExp orderly holds wellFormed isRecord isTyped isReached' regex
          (found _ isTerm)
  · intro inert term isTerm
    unfold queryTerms at isTerm
    rw [Deriver.queryTerms_ofValue _ isObject wellFormed plain inert] at isTerm
    rcases List.mem_map.mp isTerm with ⟨held, isHeld, rfl⟩
    have answers := Deriver.answers_lookup isHeld
    rw [← orderly.derivedTerms_eq isRecord isTyped] at isHeld
    exact mem_finds_of_answers orderly holds rfl isRecord isHeld answers
      (orderly.hasType isRecord isTyped)

/-- A strict query by the value of a record of a type for which everything is
indexed is answered.  It yields the record exactly when no expression in the
value compiles, whatever else the value holds and whether or not strings are
indexed by tokens. -/
theorem yields_itself_iff
    (reachable : Reachable (fun _ request => request.WellFormed) database)
    (consistent : database.Consistent)
    (isRecord : database.store.records.get? key = some record)
    (isTyped : record.typeName = some typeName) {schema : Schema}
    (isSchema : database.registry.get? typeName = some schema)
    (everything : schema.indexedPaths = none)
    (isObject : record.value.isObject = true) (plain : record.value.PlainNamed)
    (someTerm : database.queryTerms (.ofValue record.value) (some typeName) ≠ [])
    (select : Option Projection) (scanFallback : Bool) :
    let options : IndexOptions := { typeName := some typeName, scanFallback }
    database.IsAnswered (.ofValue record.value) none select options ∧
      (database.Yields (.ofValue record.value) none select options key ↔ record.value.Inert) := by
  have orderly := orderly_of_reachable reachable
  have holds := consistent_iff.mp consistent
  have wellFormed := wellFormed_of_reachable reachable key record isRecord
  have declared : (database.queryDeriver (some typeName)).declared = none := by
    unfold queryDeriver
    rw [Option.bind_some, isSchema]
    exact everything
  rw [← mem_finds_itself_iff orderly holds wellFormed isRecord isTyped declared isObject plain]
  exact yields_iff_found orderly holds isRecord (record.value.isMatch_ofValue wellFormed plain)
    someTerm select scanFallback

/-! ## A record that holds an expression -/

/-- To store an expression as data, beside a date and what is no number. -/
def expressionPut (source : String) : Request :=
  .put (some "P@1") (.object [("at", .date 0), ("n", .number .nan), ("re", .regExp source "")])
    { typeName := some "P" }

/-- What is kept of it. -/
def expressionFields (source : String) : List (String × Value) :=
  [("#", .string "P@1"), ("at", .date 0), ("n", .number .nan), ("re", .regExp source "")]

/-- The record of that expression. -/
def expressionRecord (source : String) : StoredRecord where
  version := 1
  typeName := some "P"
  body := (Value.object (expressionFields source)).encode false

/-- A database with that record. -/
def withExpression (source : String) : Database :=
  blank.after (expressionPut source)

variable (source : String)

theorem run_expressionPut : ((expressionPut source).pending blank).run blank.start =
    (.ok (some ⟨"P@1", .object (expressionFields source), some "P", none, none⟩),
      ⟨blank.store, Registry.define .empty (.ofType "P"), .fresh⟩) := by
  change (Write.pendingPut _ (some "P@1") _ _).run _ = _
  unfold Write.pendingPut
  simp [Write.putKey, Write.record?, checkPlace_firstPut]
  rfl

theorem isRecord_withExpression :
    (withExpression source).store.records.get? "P@1" = some (expressionRecord source) := by
  have isRow : (withExpression source).store.records.rows = [("P@1", expressionRecord source)] := by
    unfold withExpression expressionPut
    rw [after_put (run_expressionPut source) rfl]
    rfl
  rw [Table.get?, isRow]
  rfl

theorem isSchema_withExpression :
    (withExpression source).registry.get? "P" = some (.ofType "P") := by
  unfold withExpression expressionPut
  rw [after_put (run_expressionPut source) rfl]
  rfl

theorem queryDeriver_withExpression :
    (withExpression source).queryDeriver (some "P") = ⟨none, none⟩ := by
  unfold queryDeriver withExpression expressionPut
  rw [Option.bind_some, after_put (run_expressionPut source) rfl]
  rfl

/-- What is read back is what was stored. -/
theorem decode_expressionFields (keepUndefined : Bool) :
    Value.decode ((Value.object (expressionFields source)).encode keepUndefined) =
      .object (expressionFields source) := by
  have isExpression : Value.decodeString (Value.regExpTag source "") = .regExp source "" :=
    Value.decodeString_regExpTag source rfl
  change Value.object [("#", .decodeString "P@1"), ("at", .decodeString (Value.dateTag 0)),
    ("n", .decode (Value.encodeNumber .nan)), ("re", .decodeString (Value.regExpTag source ""))] = _
  rw [isExpression]
  rfl

theorem value_expressionRecord :
    (expressionRecord source).value = .object (expressionFields source) :=
  decode_expressionFields source false

theorem isObject_expressionRecord : (expressionRecord source).value.isObject = true := by
  rw [value_expressionRecord]
  rfl

theorem plainNamed_expressionRecord : (expressionRecord source).value.PlainNamed := by
  rw [value_expressionRecord]
  apply Value.plainNamed_of_scalars
  unfold expressionFields
  simp only [List.forall_mem_cons]
  exact ⟨⟨rfl, rfl⟩, ⟨rfl, rfl⟩, ⟨rfl, rfl⟩, ⟨rfl, rfl⟩, List.forall_mem_nil _⟩

theorem someTerm_expressionRecord : (withExpression source).queryTerms
    (.ofValue (expressionRecord source).value) (some "P") ≠ [] := by
  rw [value_expressionRecord]
  unfold queryTerms
  rw [queryDeriver_withExpression]
  exact List.cons_ne_nil _ _

theorem reachable_withExpression :
    Reachable (fun _ request => request.WellFormed) (withExpression source) := by
  refine .step (.opened openStore_blank) (Value.wellFormed_object_iff.mpr ⟨?_, ?_⟩)
  · have names : ["at", "n", "re"].Pairwise fun first second => compare first second = .lt := by
      decide
    exact Value.ascending_iff.mpr names
  · simp only [List.forall_mem_cons]
    exact ⟨trivial, trivial, trivial, List.forall_mem_nil _⟩

theorem indexesHold_withExpression : (withExpression source).IndexesHold := by
  refine indexesHold_of_reachable (.step (.opened openStore_blank) ⟨?_, nofun⟩)
  rintro pending ⟨txn, ran⟩
  rw [run_expressionPut] at ran
  cases ran
  unfold PendingRecord.Faithful
  rw [decode_expressionFields]
  exact TermCounts.Agree.refl _

/-- A record is found by its value although this is a date beside what is no
number and an expression, for the expression does not compile. -/
theorem yields_itself_malformed : (withExpression "(").Yields
    (.ofValue (expressionRecord "(").value) none none { typeName := some "P" } "P@1" := by
  have inert : (expressionRecord "(").value.Inert := by
    rw [value_expressionRecord]
    apply Value.inert_of_scalars
    unfold expressionFields
    simp only [List.forall_mem_cons]
    refine ⟨⟨rfl, nofun⟩, ⟨rfl, nofun⟩, ⟨rfl, nofun⟩, ⟨rfl, fun source flags same => ?_⟩,
      List.forall_mem_nil _⟩
    cases same
    decide
  exact (yields_itself_iff (reachable_withExpression "(")
    (consistent_iff.mpr (indexesHold_withExpression "(")) (isRecord_withExpression "(") rfl
    (isSchema_withExpression "(") rfl (isObject_expressionRecord "(")
    (plainNamed_expressionRecord "(") (someTerm_expressionRecord "(") none false).2.mpr inert

/-- An expression that compiles keeps a record from being found by its value. -/
theorem not_yields_itself_expression :
    let database := withExpression "a"
    let record := expressionRecord "a"
    Reachable (fun _ request => request.WellFormed) database ∧ database.Consistent ∧
      database.store.records.get? "P@1" = some record ∧ record.typeName = some "P" ∧
      database.registry.get? "P" = some (.ofType "P") ∧
      (Schema.ofType "P").indexedPaths = none ∧
      record.value.isObject = true ∧ record.value.PlainNamed ∧
      database.queryTerms (.ofValue record.value) (some "P") ≠ [] ∧
      ¬ database.Yields (.ofValue record.value) none none { typeName := some "P" } "P@1" := by
  intro database record
  have reachable := reachable_withExpression "a"
  have holds := indexesHold_withExpression "a"
  have isRecord := isRecord_withExpression "a"
  have plain := plainNamed_expressionRecord "a"
  have someTerm := someTerm_expressionRecord "a"
  refine ⟨reachable, consistent_iff.mpr holds, isRecord, rfl, isSchema_withExpression "a", rfl,
    isObject_expressionRecord "a", plain, someTerm, fun yields => ?_⟩
  have orderly := orderly_of_reachable reachable
  have wellFormed := wellFormed_of_reachable reachable "P@1" record isRecord
  have found := (yields_iff_found orderly holds isRecord
    (record.value.isMatch_ofValue wellFormed plain) someTerm none false).2.mp yields
  have everything : (database.queryDeriver (some "P")).declared = none :=
    congrArg Deriver.declared (queryDeriver_withExpression "a")
  have inert := (mem_finds_itself_iff orderly holds wellFormed isRecord rfl everything
    (isObject_expressionRecord "a") plain).mp found
  have isReached : record.value.getPath? ["re"] = some (.regExp "a" "") := by
    rw [show record.value = _ from value_expressionRecord "a"]
    rfl
  have compiles : (Regex.compile? "a" "").isSome = true := by decide
  rw [inert ["re"] "a" "" isReached] at compiles
  cases compiles

end Database

end RecordIndex
