import RecordIndex.Proofs.Database.Ranked
import RecordIndex.Proofs.Database.Strict
import RecordIndex.Proofs.Query.Yielding
import RecordIndex.Proofs.Term.Narrowing

namespace RecordIndex

/-!
# Queries for no type

A query for no type looks for all terms of its pattern, and a query for a type
only for those that the type may index.  So what the former finds is found by a
query for the type of the record.  The converse holds for the types whose
declared paths leave the pattern as it is.
-/

/-! ## Scans for a type -/

namespace TermScan

variable {typeName : String}

/-- A scan for a type passes over what belongs to others. -/
theorem test_typed (scan : TermScan) (entry : IndexEntry) :
    scan.test (some typeName) entry =
      match scan.test none entry with
      | .found id => if hasType (some typeName) id then .found id else .passed
      | other => other := by
  have untyped : hasType none entry.id = true := rfl
  unfold test
  cases scan.term.acceptsPath entry.path with
  | false => rfl
  | true =>
      rw [Bool.not_true, if_neg Bool.false_ne_true, if_neg Bool.false_ne_true]
      cases scan.term.leaf.verdict scan.tokenized entry.leaf with
      | matched => rw [untyped, if_pos rfl]
      | unmatched => rfl
      | done =>
          cases scan.stopsWhenDone with
          | false => rfl
          | true => rfl

/-- A scan for a type finds those of the type. -/
theorem foundIn_typed (scan : TermScan) (rows : List (Key × Nat)) :
    scan.foundIn (some typeName) rows =
      (scan.foundIn none rows).filter (hasType (some typeName)) := by
  induction rows with
  | nil => rfl
  | cons row rest ih =>
      unfold foundIn
      cases IndexEntry.ofKey? scan.order row.1 with
      | error cause => rfl
      | ok entry =>
          dsimp only
          rw [test_typed]
          cases scan.test none entry with
          | found id =>
              dsimp only
              rw [List.filter_cons]
              cases hasType (some typeName) id with
              | true => exact congrArg (id :: ·) ih
              | false => exact ih
          | passed => exact ih
          | finished => rfl
          | failed cause => rfl

theorem mem_finds_typed_iff (store : Store) (tokenized : Bool) (term : QueryTerm) (id : String) :
    id ∈ finds store (some typeName) tokenized term ↔
      id ∈ finds store none tokenized term ∧ hasType (some typeName) id = true := by
  unfold finds upcoming
  rw [foundIn_typed, List.mem_filter]

end TermScan

namespace Database

variable {database : Database}

/-! ## Queries for one type and for none -/

/-- A query for a type looks for those terms that the type may index. -/
theorem queryTerms_typed (database : Database) (pattern : Pattern) (typeName : String) :
    database.queryTerms pattern (some typeName) =
      (database.queryTerms pattern none).filter
        (database.queryDeriver (some typeName)).retains :=
  Deriver.queryTerms_eq_filter pattern

/-- A term that is found is found on a record of some type, which may index the
term. -/
theorem retains_of_mem_finds (orderly : database.Orderly) (holds : database.IndexesHold)
    {typeName : Option String} {tokenized : Bool} {term : QueryTerm} {id : String}
    (found : id ∈ TermScan.finds database.store typeName tokenized term) :
    ∃ record name, database.store.records.get? id = some record ∧ record.typeName = some name ∧
      (database.queryDeriver (some name)).retains term = true := by
  rcases held_of_mem_finds holds found with ⟨record, isRecord, held, isHeld, accepts, _⟩
  cases isTyped : record.typeName with
  | none =>
      unfold derivedTerms at isHeld
      rw [isTyped] at isHeld
      cases isHeld
  | some name =>
      refine ⟨record, name, isRecord, isTyped, ?_⟩
      rw [orderly.derivedTerms_eq isRecord isTyped] at isHeld
      exact Deriver.retains_of_acceptsPath isHeld accepts

/-- What is found for every term of a pattern is a record of a type that leaves
the pattern as it is. -/
theorem queryTerms_of_found (orderly : database.Orderly) (holds : database.IndexesHold)
    {pattern : Pattern} {id : String} {record : StoredRecord} {typeName : String}
    (isRecord : database.store.records.get? id = some record)
    (isTyped : record.typeName = some typeName)
    (found : ∀ term ∈ database.queryTerms pattern none, id ∈ TermScan.finds database.store none
      database.config.tokenizer?.isSome term) :
    database.queryTerms pattern (some typeName) = database.queryTerms pattern none := by
  rw [queryTerms_typed, List.filter_eq_self]
  intro term isTerm
  rcases retains_of_mem_finds orderly holds (found term isTerm) with
    ⟨record', name, isRecord', isTyped', retains⟩
  cases isRecord.symm.trans isRecord'
  cases isTyped.symm.trans isTyped'
  exact retains

variable {pattern : Pattern} {valueMatch : Option Pattern} {options : IndexOptions} {key : String}

/-- What qualifies for no type qualifies for its own one, which leaves the
pattern as it is. -/
theorem Qualifies.typed (orderly : database.Orderly) (holds : database.IndexesHold)
    (qualifies : database.Qualifies pattern valueMatch { options with typeName := none } key) :
    ∃ record name, database.store.records.get? key = some record ∧ record.typeName = some name ∧
      database.queryTerms pattern (some name) = database.queryTerms pattern none ∧
      database.Qualifies pattern valueMatch { options with typeName := some name } key := by
  rcases List.exists_mem_of_ne_nil _ qualifies.someTerm with ⟨term, isTerm⟩
  rcases retains_of_mem_finds orderly holds (qualifies.found term isTerm) with
    ⟨record, name, isRecord, isTyped, _⟩
  have same := queryTerms_of_found orderly holds isRecord isTyped qualifies.found
  refine ⟨record, name, isRecord, isTyped, same, ?_⟩
  rcases qualifies with ⟨someTerm, enough, found, admitted⟩
  dsimp only at someTerm enough found
  rw [← same] at someTerm enough found
  refine ⟨someTerm, enough, fun term isTerm => ?_, admitted⟩
  exact (TermScan.mem_finds_typed_iff _ _ term key).mpr
    ⟨found term isTerm, orderly.hasType isRecord isTyped⟩

/-- What qualifies for a type that leaves the pattern as it is qualifies for
none. -/
theorem Qualifies.untyped {name : String}
    (qualifies : database.Qualifies pattern valueMatch { options with typeName := some name } key)
    (same : database.queryTerms pattern (some name) = database.queryTerms pattern none) :
    database.Qualifies pattern valueMatch { options with typeName := none } key := by
  rcases qualifies with ⟨someTerm, enough, found, admitted⟩
  dsimp only at someTerm enough found
  rw [same] at someTerm enough found
  refine ⟨someTerm, enough, fun term isTerm => ?_, admitted⟩
  exact ((TermScan.mem_finds_typed_iff _ _ term key).mp (found term isTerm)).1

/-- In a consistent database, what a strict query for no type yields is yielded
by the same query for some type.  The converse holds exactly if, of those types
for which the query yields anything, each leaves the terms of the pattern as
they are. -/
theorem untyped_query_union_iff {allowed : Database -> Request -> Prop}
    (reachable : Reachable allowed database) (consistent : database.Consistent)
    (plainNames : forall name, (database.registry.get? name).isSome -> '@' ∉ name.toList)
    (pattern : Pattern) (valueMatch : Option Pattern) (select : Option Projection)
    {options : IndexOptions} (strict : options.IsStrict) :
    let yields typeName := database.Yields pattern valueMatch select { options with typeName }
    let isRegistered name := (database.registry.get? name).isSome = true
    (forall typeName,
      database.IsAnswered pattern valueMatch select { options with typeName }) ∧
    (forall key, yields none key -> ∃ name, isRegistered name ∧ yields (some name) key) ∧
    ((forall key, yields none key ↔ ∃ name, isRegistered name ∧ yields (some name) key) ↔
      forall name, isRegistered name -> forall key, yields (some name) key ->
        database.queryTerms pattern (some name) = database.queryTerms pattern none) := by
  intro yields isRegistered
  have orderly := orderly_of_reachable reachable
  have holds := consistent_iff.mp consistent
  have strict (typeName : Option String) : IndexOptions.IsStrict { options with typeName } :=
    ⟨strict.notRanked, strict.allHits, strict.noFallback⟩
  have qualifies_iff (typeName : Option String) (key : String) : yields typeName key ↔
      database.Qualifies pattern valueMatch { options with typeName } key :=
    yields_iff orderly holds pattern valueMatch select (strict typeName) key
  have below (key : String) (isYielded : yields none key) :
      ∃ record name, database.store.records.get? key = some record ∧
        record.typeName = some name ∧
        database.queryTerms pattern (some name) = database.queryTerms pattern none ∧
        isRegistered name ∧ yields (some name) key := by
    rcases ((qualifies_iff none key).mp isYielded).typed orderly holds with
      ⟨record, name, isRecord, isTyped, same, qualifies⟩
    exact ⟨record, name, isRecord, isTyped, same, (orderly.kept key record isRecord).isKnown name
      isTyped, (qualifies_iff (some name) key).mpr qualifies⟩
  have someType (key : String) (isYielded : yields none key) :
      ∃ name, isRegistered name ∧ yields (some name) key := by
    rcases below key isYielded with ⟨_, name, _, _, _, registered, typed⟩
    exact ⟨name, registered, typed⟩
  refine ⟨fun typeName => ?_, someType, fun union name registered key isYielded => ?_,
    fun alike key => ⟨someType key, ?_⟩⟩
  · rcases reads_strict orderly holds pattern valueMatch select (strict typeName) with
      ⟨range, hits, opened, reads, _⟩
    exact ⟨range, hits, opened, reads⟩
  · -- A name without an at sign is the only one that its records can have.
    have qualifies := (qualifies_iff (some name) key).mp isYielded
    rcases List.exists_mem_of_ne_nil _ qualifies.someTerm with ⟨term, isTerm⟩
    rcases record_of_mem_finds orderly holds plainNames registered
      (qualifies.found term isTerm) with ⟨record, isRecord, isTyped⟩
    rcases below key ((union key).mpr ⟨name, registered, isYielded⟩) with
      ⟨record', name', isRecord', isTyped', same, _⟩
    cases isRecord.symm.trans isRecord'
    cases isTyped.symm.trans isTyped'
    exact same
  · rintro ⟨name, registered, isYielded⟩
    exact (qualifies_iff none key).mpr (((qualifies_iff (some name) key).mp isYielded).untyped
      (alike name registered key isYielded))

/-! ## People who are indexed by their names -/

/-- To have the people of a type indexed by their names only. -/
def indexNames : Request :=
  .defineSchema "P" { indexedPaths := some ["name"] }

/-- To store a named person who is in a place. -/
def placedPut : Request :=
  .put (some "P@1") (.object [("name", .string "john"), ("place", .string "here")])
    { typeName := some "P" }

theorem splitPath_name : splitPath "name" = ["name"] := by
  unfold splitPath String.splitOn
  rw [if_neg (by decide)]
  -- None of the four letters is a dot.
  iterate 4 rw [String.splitOnAux, if_neg (by decide), if_neg (by decide)]
  rw [String.splitOnAux, if_pos (by decide)]
  rfl

theorem after_indexNames : blank.after indexNames =
    blank.withSchema { Schema.ofType "P" with indexedPaths := some [["name"]] } := by
  have resolved : blank.registry.resolve "P" { indexedPaths := some ["name"] } =
      { Schema.ofType "P" with indexedPaths := some [splitPath "name"] } := rfl
  rw [splitPath_name] at resolved
  rw [← resolved]
  exact write_defineSchema blank _

theorem run_placedPut :
    (placedPut.pending (blank.after indexNames)).run (blank.after indexNames).start =
      (.ok (some ⟨"P@1", .object [("#", .string "P@1"), ("name", .string "john"),
        ("place", .string "here")], some "P", none, none⟩), (blank.after indexNames).start) := by
  rw [after_indexNames]
  change (Write.pendingPut _ (some "P@1") _ _).run _ = _
  unfold Write.pendingPut
  simp [Write.putKey, Write.record?, checkPlace_firstPut]
  rfl

/-- A database with that person. -/
def namesOnly : Database :=
  (blank.after indexNames).after placedPut

/-- The record of that person. -/
def placedJohn : StoredRecord where
  version := 1
  typeName := some "P"
  body := .object [("#", .string "P@1"), ("name", .string "john"), ("place", .string "here")]

theorem records_namesOnly : namesOnly.store.records.rows = [("P@1", placedJohn)] := by
  unfold namesOnly placedPut
  rw [after_put run_placedPut rfl, after_indexNames]
  rfl

theorem registry_namesOnly : namesOnly.registry.rows =
    [("P", { Schema.ofType "P" with indexedPaths := some [["name"]] })] := by
  unfold namesOnly placedPut
  rw [after_put run_placedPut rfl, after_indexNames]
  rfl

theorem config_namesOnly : namesOnly.config = blank.config := by
  unfold namesOnly placedPut
  rw [after_put run_placedPut rfl, after_indexNames]
  rfl

theorem indexesHold_namesOnly : namesOnly.IndexesHold := by
  have careful : placedPut.Careful (blank.after indexNames) := by
    refine ⟨?_, nofun⟩
    rintro pending ⟨txn, ran⟩
    rw [run_placedPut] at ran
    cases ran
    have isConfig : (blank.after indexNames).config = blank.config := by
      rw [after_indexNames]
      rfl
    unfold PendingRecord.Faithful
    rw [isConfig]
    exact TermCounts.Agree.refl _
  have opens : indexNames.Careful blank := by
    refine ⟨?_, nofun⟩
    rintro pending ⟨txn, ran⟩
    cases ran
  exact indexesHold_of_reachable (.step (.step (.opened openStore_blank) opens) careful)

theorem reachable_namesOnly : Reachable (fun _ _ => True) namesOnly :=
  .step (.step (.opened openStore_blank) trivial) trivial

/-- The only type is that of the people. -/
theorem eq_of_registered_namesOnly {name : String}
    (isRegistered : (namesOnly.registry.get? name).isSome) : name = "P" := by
  rcases Option.isSome_iff_exists.mp isRegistered with ⟨schema, isSchema⟩
  rw [Table.get?_eq_some_iff, registry_namesOnly, List.mem_singleton] at isSchema
  cases isSchema
  rfl

theorem isRegistered_namesOnly : (namesOnly.registry.get? "P").isSome := by
  rw [Table.get?, registry_namesOnly]
  rfl

theorem plainNames_namesOnly (name : String)
    (isRegistered : (namesOnly.registry.get? name).isSome) : '@' ∉ name.toList := by
  cases eq_of_registered_namesOnly isRegistered
  decide

theorem isRecord_namesOnly : namesOnly.store.records.get? "P@1" = some placedJohn := by
  rw [Table.get?, records_namesOnly]
  rfl

theorem queryDeriver_namesOnly :
    namesOnly.queryDeriver (some "P") = ⟨some [["name"]], none⟩ := by
  unfold queryDeriver
  rw [Option.bind_some, Table.get?, registry_namesOnly, config_namesOnly]
  rfl

theorem queryDeriver_namesOnly_untyped : namesOnly.queryDeriver none = ⟨none, none⟩ := by
  unfold queryDeriver
  rw [config_namesOnly]
  rfl

theorem queryTerms_johnFields_namesOnly :
    namesOnly.queryTerms (.nested johnFields) (some "P") =
      [⟨[.name "name"], .exact (.text "john")⟩] := by
  unfold queryTerms
  rw [queryDeriver_namesOnly]
  rfl

theorem queryTerms_johnFields_untyped : namesOnly.queryTerms (.nested johnFields) none =
    [⟨[.name "name"], .exact (.text "john")⟩] := by
  unfold queryTerms
  rw [queryDeriver_namesOnly_untyped]
  rfl

theorem queryTerms_johnFromHere_typed :
    namesOnly.queryTerms (.nested johnFromHere) (some "P") =
      [⟨[.name "name"], .exact (.text "john")⟩] := by
  unfold queryTerms
  rw [queryDeriver_namesOnly]
  rfl

theorem queryTerms_johnFromHere_untyped :
    namesOnly.queryTerms (.nested johnFromHere) none =
      [⟨[.name "name"], .exact (.text "john")⟩, ⟨[.name "place"], .exact (.text "here")⟩] := by
  unfold queryTerms
  rw [queryDeriver_namesOnly_untyped]
  rfl

theorem derivedTerms_placedJohn :
    namesOnly.derivedTerms placedJohn = [⟨["name"], .text "john"⟩] := by
  change (Deriver.mk _ _).recordTerms placedJohn.value = _
  rw [Table.get?, registry_namesOnly, config_namesOnly]
  rfl

/-- Who is looked for by the name only is found among the people. -/
theorem yields_namesOnly {fields : List (PatternKey × Pattern)}
    (looksForName : namesOnly.queryTerms (.nested fields) (some "P") =
      [⟨[.name "name"], .exact (.text "john")⟩])
    (isMatch : (Pattern.nested fields).isMatch placedJohn.value = true) :
    namesOnly.Yields (.nested fields) none none { typeName := some "P" } "P@1" := by
  have orderly := orderly_of_reachable reachable_namesOnly
  have holds := indexesHold_namesOnly
  have isLookup : QueryTerm.IsLookup ⟨none, none⟩ ⟨[.name "name"], .exact (.text "john")⟩ :=
    ⟨["name"], .text "john", .string "john", rfl, List.mem_singleton.mpr rfl⟩
  have isTokenizer : (Deriver.mk none none).tokenizer = namesOnly.config.tokenizer? := by
    rw [config_namesOnly]
    rfl
  have isHeld : namesOnly.holdsTerm placedJohn ⟨[.name "name"], .exact (.text "john")⟩ = true := by
    refine (holdsTerm_iff placedJohn ["name"] (.text "john")).mpr
      ⟨⟨["name"], .text "john"⟩, ?_, rfl⟩
    rw [derivedTerms_placedJohn]
    exact List.mem_singleton.mpr rfl
  refine (yields_iff orderly holds _ none none ⟨rfl, ⟨rfl, rfl⟩, rfl⟩ "P@1").mpr
    ⟨?_, Nat.zero_le _, fun term isTerm => ?_, placedJohn, isRecord_namesOnly, isMatch⟩
  · rw [looksForName]
    exact List.cons_ne_nil _ _
  · rw [looksForName, List.mem_singleton] at isTerm
    subst isTerm
    exact (mem_finds_iff_holdsTerm orderly holds isRecord_namesOnly
      (orderly.hasType isRecord_namesOnly rfl) isTokenizer isLookup).mpr isHeld

/-- A query about names only finds the person in no type as well. -/
theorem untyped_query_union_johnFields :
    (forall key, namesOnly.Yields (.nested johnFields) none none {} key ↔
      ∃ name, (namesOnly.registry.get? name).isSome = true ∧
        namesOnly.Yields (.nested johnFields) none none { typeName := some name } key) ∧
      namesOnly.Yields (.nested johnFields) none none {} "P@1" := by
  have strict : IndexOptions.IsStrict {} := ⟨rfl, ⟨rfl, rfl⟩, rfl⟩
  have union := (untyped_query_union_iff reachable_namesOnly
    (consistent_iff.mpr indexesHold_namesOnly) plainNames_namesOnly (.nested johnFields) none none
    strict).2.2.mpr (by
      intro name isRegistered key isYielded
      cases eq_of_registered_namesOnly isRegistered
      exact queryTerms_johnFields_namesOnly.trans queryTerms_johnFields_untyped.symm)
  exact ⟨union, (union "P@1").mpr ⟨"P", isRegistered_namesOnly,
    yields_namesOnly queryTerms_johnFields_namesOnly rfl⟩⟩

/-- Asked for in no type, nobody of that name in that place is found. -/
theorem untyped_query_misses_placedJohn :
    Reachable (fun _ _ => True) namesOnly ∧ namesOnly.Consistent ∧
      (forall name, (namesOnly.registry.get? name).isSome -> '@' ∉ name.toList) ∧
      IndexOptions.IsStrict {} ∧
      ¬ forall key, namesOnly.Yields (.nested johnFromHere) none none {} key ↔
        ∃ name, (namesOnly.registry.get? name).isSome = true ∧
          namesOnly.Yields (.nested johnFromHere) none none { typeName := some name } key := by
  have strict : IndexOptions.IsStrict {} := ⟨rfl, ⟨rfl, rfl⟩, rfl⟩
  refine ⟨reachable_namesOnly, consistent_iff.mpr indexesHold_namesOnly, plainNames_namesOnly,
    strict, fun union => ?_⟩
  have orderly := orderly_of_reachable reachable_namesOnly
  have found := (union "P@1").mpr ⟨"P", isRegistered_namesOnly,
    yields_namesOnly queryTerms_johnFromHere_typed rfl⟩
  have qualifies : namesOnly.Qualifies (.nested johnFromHere) none
      { ({} : IndexOptions) with typeName := none } "P@1" :=
    (yields_iff orderly indexesHold_namesOnly _ none none strict "P@1").mp found
  rcases Qualifies.typed orderly indexesHold_namesOnly qualifies with
    ⟨record, name, isRecord, isTyped, same, _⟩
  cases isRecord_namesOnly.symm.trans isRecord
  cases isTyped
  rw [queryTerms_johnFromHere_typed, queryTerms_johnFromHere_untyped] at same
  cases same

end Database

end RecordIndex
