import RecordIndex.Proofs.Database.Origins
import RecordIndex.Proofs.Database.Ranked
import RecordIndex.Proofs.Query.Fallback
import RecordIndex.Proofs.Term.Paths

namespace RecordIndex

/-!
# What scores count

The score of a ranked hit is the number of terms at the front of the query that
find its record.  A term that looks for a leaf finds the records that hold it,
and a term that makes a test finds those that pass it.  Where strings are
indexed by their tokens it also finds every record that has a string in the
place of the test: no token can be tested, so all of them pass until the record
itself is looked at.  A ranked query does not look at it, so its score may count
terms that the record does not satisfy.
-/

namespace Pattern

mutual

/-- Down to its leaves, the keys of the pattern are plain names. -/
def IsNamed : Pattern -> Prop
  | .nested fields => AreNamed fields
  | _ => True
termination_by structural pattern => pattern

def AreNamed : List (PatternKey × Pattern) -> Prop
  | [] => True
  | (key, pattern) :: rest => (∃ name, key = .name name) ∧ IsNamed pattern ∧ AreNamed rest
termination_by structural fields => fields

end

theorem areNamed_iff {fields : List (PatternKey × Pattern)} :
    AreNamed fields ↔ ∀ field ∈ fields, (∃ name, field.1 = .name name) ∧ field.2.IsNamed := by
  induction fields with
  | nil => exact ⟨fun _ => List.forall_mem_nil _, fun _ => trivial⟩
  | cons field rest ih => rw [AreNamed, ih, List.forall_mem_cons, and_assoc]

/-- The keys that lead to a leaf are plain names. -/
theorem LeafAt.names_of_isNamed {pattern leaf : Pattern} {keys : List PatternKey}
    (leafAt : pattern.LeafAt keys leaf) (isNamed : pattern.IsNamed) :
    ∃ names : List String, keys = names.map .name := by
  induction leafAt with
  | here _ => exact ⟨[], rfl⟩
  | field isField _ ih =>
      rcases areNamed_iff.mp isNamed _ isField with ⟨⟨name, isName⟩, below⟩
      rcases ih below with ⟨names, areNames⟩
      exact ⟨name :: names, by rw [areNames, List.map_cons, ← isName]⟩

end Pattern

/-- The terms of a pattern with plain names have paths of plain names. -/
theorem Deriver.isNamed_of_mem_queryTerms (deriver : Deriver) {pattern : Pattern}
    (isNamed : pattern.IsNamed) :
    ∀ term ∈ deriver.queryTerms pattern, ∃ names, term.IsNamed names := by
  cases pattern with
  | nested fields =>
      intro term member
      rcases mem_queryTerms_iff.mp member with ⟨keys, leaf, leafAt, member⟩
      rcases leafAt.names_of_isNamed isNamed with ⟨names, rfl⟩
      exact ⟨names, (path_of_mem_leaf leafAt.isNested_eq_false member).1⟩
  | _ => exact nofun

/-! ## Terms and records -/

/-- The test that a leaf makes, unless it looks for a known part. -/
def TermLeaf.test? : TermLeaf -> Option Pattern
  | .exact _ => none
  | .regex expression => some (.regex expression)
  | .predicate test => some (.predicate test)
  | .operator comparison => some (.operator comparison)

theorem TermLeaf.testLeaf?_of_test? {leaf : TermLeaf} {pattern : Pattern}
    (isTest : leaf.test? = some pattern) : pattern.testLeaf? = some leaf := by
  cases leaf with
  | exact part => cases isTest
  | regex _ | predicate _ | operator _ =>
      cases isTest
      rfl

/-- The path of the term leads to a string. -/
def QueryTerm.meetsString (term : QueryTerm) (value : Value) : Bool :=
  ((term.literalPath?.bind fun path => value.getPath? path).bind Value.string?).isSome

namespace Database

variable {database : Database}

/-- The record satisfies the term: it holds what is looked up, or what the path
leads to passes the test as a match of the whole record would make it. -/
def satisfies (database : Database) (record : StoredRecord) (term : QueryTerm) : Bool :=
  match term.leaf.test? with
  | some pattern => (pattern.along term.path).isMatch record.value
  | none => database.holdsTerm record term

/-- The term makes a test that a string of the record does not pass, but each of
its tokens does. -/
def waivesTest (database : Database) (record : StoredRecord) (term : QueryTerm) : Bool :=
  database.config.tokenizer?.isSome && term.leaf.test?.isSome && term.meetsString record.value &&
    !database.satisfies record term

theorem not_waivesTest_of_satisfies {record : StoredRecord} {term : QueryTerm}
    (satisfies : database.satisfies record term = true) :
    database.waivesTest record term = false := by
  unfold waivesTest
  rw [satisfies, Bool.not_true, Bool.and_false]

/-- Whole strings are tested, so no test is waived. -/
theorem not_waivesTest_of_untokenized (untokenized : database.config.tokenizer? = none)
    (record : StoredRecord) (term : QueryTerm) : database.waivesTest record term = false := by
  unfold waivesTest
  rw [untokenized]
  rfl

/-- The path of an expected term leads to the scalar that it is a part of. -/
theorem reached_of_mem_derivedTerms {record : StoredRecord}
    (wellFormed : record.value.WellFormed) {held : Term}
    (member : held ∈ database.derivedTerms record) :
    ∃ (deriver : Deriver) (reached : Value), deriver.tokenizer = database.config.tokenizer? ∧
      record.value.getPath? held.path = some reached ∧ held.leaf ∈ deriver.leafParts reached := by
  unfold derivedTerms at member
  split at member
  · rcases Deriver.reached_of_mem_termsAt wellFormed member with
      ⟨path, reached, isPath, isReached, isLeaf⟩
    rw [List.nil_append] at isPath
    exact ⟨_, reached, rfl, isPath ▸ isReached, isLeaf⟩
  · cases member

/-- A record that is found for a term satisfies it, unless the test was
waived. -/
theorem satisfies_or_waives_of_mem_finds (orderly : database.Orderly)
    (holds : database.IndexesHold) {term : QueryTerm} {names : List String}
    (isNamed : term.IsNamed names) {typeName : Option String} {id : String}
    {record : StoredRecord} (isRecord : database.store.records.get? id = some record)
    (wellFormed : record.value.WellFormed)
    (found : id ∈ TermScan.finds database.store typeName database.config.tokenizer?.isSome term) :
    database.satisfies record term = true ∨ database.waivesTest record term = true := by
  rcases held_of_found holds isRecord found with ⟨held, member, accepts, matched⟩
  rcases term with ⟨path, leaf⟩
  have isPath : path = names.map .name := isNamed
  subst isPath
  cases isTest : leaf.test? with
  | none =>
      cases leaf with
      | exact part => exact .inl (holdsTerm_of_accepts member accepts matched)
      | _ => cases isTest
  | some pattern =>
      have samePath := (QueryTerm.acceptsPath_iff isNamed held.path).mp accepts
      rcases reached_of_mem_derivedTerms wellFormed member with
        ⟨deriver, reached, isTokenizer, isReached, isLeaf⟩
      rw [← samePath] at isReached
      have isStored := Deriver.isStored_of_getPath? (orderly.isStored isRecord) isReached
      have matched : leaf.verdict database.config.tokenizer?.isSome held.leaf.keyed = .matched :=
        matched
      rw [TermLeaf.verdict_of_testLeaf? (TermLeaf.testLeaf?_of_test? isTest), ← isTokenizer]
        at matched
      have satisfies_eq : database.satisfies record ⟨names.map .name, leaf⟩ =
          pattern.isMatch reached := by
        unfold satisfies
        dsimp only
        rw [isTest]
        exact pattern.isMatch_along isReached
      have meets : QueryTerm.meetsString ⟨names.map .name, leaf⟩ record.value =
          reached.string?.isSome := by
        unfold QueryTerm.meetsString
        rw [QueryTerm.literalPath?_of_isNamed isNamed, Option.bind_some, isReached,
          Option.bind_some]
      rcases Deriver.matched_of_testStored isStored isLeaf matched with passed | ⟨splits, isText⟩
      · refine .inl (satisfies_eq.trans ?_)
        unfold Pattern.isMatch
        rw [passed]
        rfl
      · unfold waivesTest
        rw [meets, isText, ← isTokenizer, splits, isTest]
        cases database.satisfies record ⟨names.map .name, leaf⟩ with
        | true => exact .inl rfl
        | false => exact .inr rfl

/-! ## Scores -/

/-- A score of terms that are satisfied or waived is no more than the number of
those that are satisfied exactly when the waived ones are made up for by
satisfied ones behind. -/
theorem score_le_countP_iff {record : StoredRecord} {terms : List QueryTerm} {score : Nat}
    (inPlace : score ≤ terms.length) (counted : ∀ term ∈ terms.take score,
      database.satisfies record term = true ∨ database.waivesTest record term = true) :
    score ≤ terms.countP (database.satisfies record) ↔
      (terms.take score).countP (database.waivesTest record) ≤
        (terms.drop score).countP (database.satisfies record) := by
  have waived : (terms.take score).countP (database.waivesTest record) =
      (terms.take score).countP fun term => decide ¬database.satisfies record term = true := by
    refine List.countP_congr fun term member => ?_
    rw [decide_eq_true_eq]
    rcases counted term member with satisfied | waived
    · rw [satisfied, not_waivesTest_of_satisfies satisfied]
      exact ⟨nofun, fun unsatisfied => absurd rfl unsatisfied⟩
    · refine ⟨fun _ satisfied => ?_, fun _ => waived⟩
      cases waived.symm.trans (not_waivesTest_of_satisfies satisfied)
  have front : score = (terms.take score).countP (database.satisfies record) +
      (terms.take score).countP (database.waivesTest record) := by
    have split := (terms.take score).length_eq_countP_add_countP (database.satisfies record)
    rw [List.length_take_of_le inPlace, ← waived] at split
    exact split
  have whole : terms.countP (database.satisfies record) =
      (terms.take score).countP (database.satisfies record) +
        (terms.drop score).countP (database.satisfies record) := by
    rw [← List.countP_append, List.take_append_drop]
  omega

/-- Each hit of a query shows a record, and its score counts terms at
the front that the record satisfies or whose tests were waived. -/
theorem query_counts_front (orderly : database.Orderly) (holds : database.IndexesHold)
    (wellFormed : forall key record, database.store.records.get? key = some record ->
      record.value.WellFormed)
    {pattern : Pattern} (isNamed : pattern.IsNamed) {options : IndexOptions}
    (valid : options.validate = .ok ()) (valueMatch : Option Pattern)
    (select : Option Projection) :
    let terms := database.queryTerms pattern options.typeName
    ∃ range hits,
      database.findByIndex pattern valueMatch select options = .ok range ∧
      database.Reads range hits ∧
      ∀ hit ∈ hits, ∃ record, database.store.records.get? hit.key = some record ∧
        hit.mark ≤ terms.length ∧ ∀ term ∈ terms.take hit.mark,
          database.satisfies record term = true ∨ database.waivesTest record term = true := by
  intro terms
  rcases IndexMatches.drain_marks orderly.readsRows (readable_of_indexesHold holds) terms options
    database.config.tokenizer?.isSome with ⟨found, drained, isRun⟩
  rcases findByIndex_of_drain pattern valid drained valueMatch select with
    ⟨range, candidates, opened, reads, perm⟩
  refine ⟨range, _, opened, reads, fun hit isHit => ?_⟩
  rcases List.mem_filterMap.mp (Page.cut_subset _ _ isHit) with ⟨candidate, isCandidate, isHit⟩
  rcases Page.hit?_eq_some isHit with ⟨key, mark, record, isRecord, _⟩
  rw [key, mark, isRun candidate (perm.mem_iff.mp isCandidate)]
  refine ⟨record, isRecord, IndexMatches.leading_le _ _ _, fun term isTerm => ?_⟩
  rcases Deriver.isNamed_of_mem_queryTerms _ isNamed term (List.mem_of_mem_take isTerm) with
    ⟨names, isNamed⟩
  exact satisfies_or_waives_of_mem_finds orderly holds isNamed isRecord
    (wellFormed _ record isRecord) (IndexMatches.mem_finds_of_mem_run isTerm)

/-- The score of a hit is no more than the number of terms that its record
satisfies exactly when it counts no more terms whose tests were waived than
there are satisfied ones behind those that it counts. -/
theorem scores_satisfied_iff
    (reachable : Reachable (fun _ request => request.WellFormed) database)
    (consistent : database.Consistent) {pattern : Pattern} (isNamed : pattern.IsNamed)
    {options : IndexOptions} (valid : options.validate = .ok ()) (select : Option Projection) :
    let terms := database.queryTerms pattern options.typeName
    ∃ range hits,
      database.findByIndex pattern none select options = .ok range ∧
      database.Reads range hits ∧
      ∀ hit ∈ hits, ∃ record, database.store.records.get? hit.key = some record ∧
        (∀ term ∈ terms.take hit.mark,
          database.satisfies record term = true ∨ database.waivesTest record term = true) ∧
        (hit.mark ≤ terms.countP (database.satisfies record) ↔
          (terms.take hit.mark).countP (database.waivesTest record) ≤
            (terms.drop hit.mark).countP (database.satisfies record)) := by
  intro terms
  rcases query_counts_front (orderly_of_reachable reachable) (consistent_iff.mp consistent)
    (wellFormed_of_reachable reachable) isNamed valid none select with
    ⟨range, hits, opened, reads, counts⟩
  refine ⟨range, hits, opened, reads, fun hit isHit => ?_⟩
  rcases counts hit isHit with ⟨record, isRecord, inPlace, counted⟩
  exact ⟨record, isRecord, counted, score_le_countP_iff inPlace counted⟩

theorem wellFormed_firstPut : firstPut.WellFormed := by
  refine Value.wellFormed_object_iff.mpr ⟨List.pairwise_singleton _ _, fun field member => ?_⟩
  cases List.mem_singleton.mp member
  trivial

theorem wellFormed_after_firstPut :
    Reachable (fun _ request => request.WellFormed) (blank.after firstPut) :=
  .step (.opened openStore_blank) wellFormed_firstPut

/-- Whoever is found by name or by place has one of them for each point of the
score. -/
theorem scores_satisfied_johnFromHere :
    let database := blank.after firstPut
    let options : IndexOptions := { typeName := some "P", fullText := some .any }
    let terms := database.queryTerms (.nested johnFromHere) options.typeName
    ∃ range hits,
      database.findByIndex (.nested johnFromHere) none none options = .ok range ∧
      database.Reads range hits ∧
      ∀ hit ∈ hits, ∃ record, database.store.records.get? hit.key = some record ∧
        hit.mark ≤ terms.countP (database.satisfies record) := by
  intro database options terms
  have isNamed : (Pattern.nested johnFromHere).IsNamed :=
    ⟨⟨"name", rfl⟩, trivial, ⟨"place", rfl⟩, trivial, trivial⟩
  have untokenized : database.config.tokenizer? = none := by
    rw [config_after_firstPut]
    rfl
  have valid : options.validate = .ok () := rfl
  rcases scores_satisfied_iff wellFormed_after_firstPut
    (consistent_iff.mpr indexesHold_after_firstPut) isNamed valid none with
    ⟨range, hits, opened, reads, scores⟩
  refine ⟨range, hits, opened, reads, fun hit isHit => ?_⟩
  rcases scores hit isHit with ⟨record, isRecord, _, isCovered⟩
  have noneWaived : (terms.take hit.mark).countP (database.waivesTest record) = 0 :=
    List.countP_eq_zero.mpr fun term _ =>
      Bool.eq_false_iff.mp (not_waivesTest_of_untokenized untokenized record term)
  refine ⟨record, isRecord, isCovered.mpr ?_⟩
  rw [noneWaived]
  exact Nat.zero_le _

/-! ## Strings that are split -/

/-- Where strings are split, a test finds every record with a string in its
place. -/
theorem mem_finds_of_string (holds : database.IndexesHold) {deriver : Deriver}
    (isTokenizer : deriver.tokenizer = database.config.tokenizer?)
    (splits : deriver.tokenizer.isSome = true) {id : String} {record : StoredRecord}
    (isRecord : database.store.records.get? id = some record) {held : Term}
    (member : held ∈ database.derivedTerms record) {text : String}
    (isStored : (Value.string text).IsStored)
    (isLeaf : held.leaf ∈ deriver.leafParts (.string text))
    {pattern : Pattern} {test : TermLeaf} (isTest : pattern.testLeaf? = some test)
    (noRange : forall operator bounds, test = .operator operator ->
      operator.numberRange? ≠ some bounds) {typeName : Option String}
    (isTyped : TermScan.hasType typeName id = true) :
    id ∈ TermScan.finds database.store typeName database.config.tokenizer?.isSome
      ⟨held.path.map .name, test⟩ := by
  have isNamed := QueryTerm.isNamed_map held.path test
  rcases Option.isSome_iff_exists.mp splits with ⟨tokenizer, isSome⟩
  rw [← isTokenizer, isSome]
  have isPlan := (QueryTerm.plan_of_test isTest noRange true).trans
    (QueryTerm.pathPlan_of_isNamed isNamed true)
  refine mem_finds_of_held holds isRecord member isTyped (.of_plan isPlan
    ((QueryTerm.acceptsPath_iff isNamed held.path).mpr rfl) ?_
    (QueryTerm.admits_of_path held.path held.leaf id) nofun)
  have isLeaf : held.leaf ∈ deriver.textParts text := isLeaf
  unfold Deriver.textParts at isLeaf
  rw [isSome] at isLeaf
  rcases List.mem_map.mp isLeaf with ⟨token, isToken, isPart⟩
  rw [← isPart]
  exact (TermLeaf.verdict_of_testLeaf? isTest true _).trans
    (Deriver.testStored_of_token isStored isToken pattern.verdict)

/-- A database that was opened on nothing, for the words of strings. -/
def wordwise : Database where
  config := { stopWords := [] }
  store := { Store.empty with
    settings := (Table.empty.insert "fulltext" "true").insert "stop_words" "[]" }
  registry := .empty
  supply := .fresh

theorem openStore_wordwise : openStore wordwise.config .empty .fresh = .ok wordwise := by
  simp [openStore, Config.validate, wordwise, Config.indexSettings]
  rfl

theorem run_firstPut_wordwise : (firstPut.pending wordwise).run wordwise.start =
    (.ok (some ⟨"P@1", .object [("#", .string "P@1"), ("name", .string "john")], some "P", none,
      none⟩), ⟨wordwise.store, Registry.define .empty (.ofType "P"), .fresh⟩) :=
  run_firstPut_on _ _

theorem record_wordwise :
    (wordwise.after firstPut).store.records.get? "P@1" = some john := by
  unfold firstPut
  rw [after_put run_firstPut_wordwise rfl]
  rfl

theorem config_wordwise : (wordwise.after firstPut).config = wordwise.config := by
  unfold firstPut
  rw [after_put run_firstPut_wordwise rfl]

/-- To look for the people of one name by a comparison. -/
def janeFields : List (PatternKey × Pattern) :=
  [(.name "name", .operator (.eq (.string "jane")))]

theorem queryTerms_jane : (wordwise.after firstPut).queryTerms (.nested janeFields) none =
    [⟨[.name "name"], .operator (.eq (.string "jane"))⟩] :=
  rfl

/-- The name of the person is indexed by at least one token. -/
theorem exists_token_john : ∃ leaf, ⟨["name"], leaf⟩ ∈ (wordwise.after firstPut).derivedTerms john ∧
    leaf ∈ Deriver.leafParts ⟨none, wordwise.config.tokenizer?⟩ (.string "john") := by
  let deriver : Deriver := ⟨none, wordwise.config.tokenizer?⟩
  have isDerived : (wordwise.after firstPut).derivedTerms john =
      deriver.recordTerms john.value := by
    unfold firstPut
    rw [after_put run_firstPut_wordwise rfl]
    rfl
  have hasLeaf : (Value.string "john").HasLeaf := ⟨rfl, rfl⟩
  rcases List.exists_mem_of_ne_nil _ (deriver.leafParts_ne_nil hasLeaf) with ⟨leaf, isLeaf⟩
  have isField : ("name", Value.string "john") ∈
      [("#", Value.string "P@1"), ("name", .string "john")] := .tail _ (.head _)
  have isTerm : ⟨["name"], leaf⟩ ∈ deriver.termsAt ([] ++ ["name"]) (.string "john") :=
    Deriver.mem_termsAt_of_leaf (List.cons_ne_nil _ _) rfl hasLeaf isLeaf
  refine ⟨leaf, ?_, isLeaf⟩
  rw [isDerived]
  exact Deriver.mem_termsOfFields_iff.mpr ⟨_, isField, rfl, isTerm⟩

/-- Who has another name is found with a score of one term, none of which is
satisfied. -/
theorem not_scores_satisfied_jane :
    let database := wordwise.after firstPut
    let options : IndexOptions := { sortable := true }
    let terms := database.queryTerms (.nested janeFields) options.typeName
    Reachable (fun _ request => request.WellFormed) database ∧ database.Consistent ∧
    ∃ range hits,
      database.findByIndex (.nested janeFields) none none options = .ok range ∧
      database.Reads range hits ∧
      ∃ hit ∈ hits, ∃ record, database.store.records.get? hit.key = some record ∧
        ¬ hit.mark ≤ terms.countP (database.satisfies record) := by
  intro database options terms
  have reachable : Reachable (fun _ request => request.WellFormed) database :=
    .step (.opened openStore_wordwise) wellFormed_firstPut
  have holds : database.IndexesHold :=
    indexesHold_of_reachable (.step (.opened openStore_wordwise) (careful_firstPut_on _ _))
  refine ⟨reachable, consistent_iff.mpr holds, ?_⟩
  have isTerms : terms = [⟨[.name "name"], .operator (.eq (.string "jane"))⟩] := queryTerms_jane
  have someTerm : database.queryTerms (.nested janeFields) options.typeName ≠ [] :=
    List.cons_ne_nil _ _
  rcases findByIndex_spec (orderly_of_reachable reachable).readsRows
    (readable_of_indexesHold holds) (.nested janeFields) rfl someTerm ⟨rfl, rfl⟩ none none with
    ⟨range, candidates, opened, reads, _, deserves⟩
  have isFound : ∀ term ∈ terms, "P@1" ∈ TermScan.finds database.store options.typeName
      database.config.tokenizer?.isSome term := by
    rw [isTerms, List.forall_mem_singleton]
    rcases exists_token_john with ⟨leaf, member, isLeaf⟩
    have isTest : (Pattern.operator (.eq (.string "jane"))).testLeaf? =
        some (.operator (.eq (.string "jane"))) := rfl
    have isTokenizer : wordwise.config.tokenizer? = database.config.tokenizer? :=
      congrArg Config.tokenizer? config_wordwise.symm
    refine mem_finds_of_string holds isTokenizer rfl record_wordwise member
      ⟨.string "john", false, rfl⟩ isLeaf isTest ?_ rfl
    intro operator bounds isOperator isRange
    cases isOperator
    cases isRange
  have isWhole : (database.search (.nested janeFields) options).leading database.store "P@1" = 1 :=
    (IndexMatches.leading_eq_iff _ _ _).mpr isFound
  have isCandidate : ⟨"P@1", 1⟩ ∈ candidates :=
    (deserves _).mpr ⟨isWhole.symm, Nat.le_refl 1, Nat.zero_le 1, .inl rfl⟩
  have unchecked : (indexPage (.nested janeFields) none none options).admits john.value = true :=
    rfl
  rcases (Page.exists_hit_iff _ _ candidates "P@1" 1).mpr
    ⟨isCandidate, john, record_wordwise, unchecked⟩ with ⟨hit, isHit, isKey, isMark⟩
  refine ⟨range, _, opened, reads, hit, isHit, john, isKey ▸ record_wordwise, ?_⟩
  have unsatisfied : terms.countP (database.satisfies john) = 0 := by
    rw [isTerms]
    rfl
  rw [isMark, unsatisfied]
  exact Nat.not_succ_le_zero 0

end Database

end RecordIndex
