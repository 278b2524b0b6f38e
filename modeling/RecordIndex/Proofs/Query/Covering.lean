import RecordIndex.Proofs.Database.Strict
import RecordIndex.Proofs.Pattern.Leaves
import RecordIndex.Proofs.Query.Yielding
import RecordIndex.Proofs.Term.Itself

namespace RecordIndex

/-!
# Leaves that meet an indexed scalar

A record that matches a pattern may still be missed by a query, since the two
look at different things.  The check of the record takes a property that is
missing for undefined, looks into containers, and is content if an expression
accepts the name of no property at all; the index only has the scalars of the
record.  So a matching record is found for the terms of a leaf exactly if the
keys of the leaf lead to one of those scalars, and the leaf is not read as an
expression where the check takes it for data.
-/

/-- The leaf is an expression as data, which a query takes for one that texts are
matched with. -/
def Pattern.IsLive (leaf : Pattern) : Prop :=
  ∃ source flags, leaf = .literal (.regExp source flags) ∧
    (Regex.compile? source flags).isSome = true

/-- The leaf asks for something: it is no literal that is nowhere indexed. -/
def Pattern.Asks : Pattern -> Prop
  | .literal value => value.HasLeaf
  | _ => True

/-- Every predicate among the leaves is done in the order of leaves. -/
def Pattern.IsTimely (pattern : Pattern) : Prop :=
  forall keys leaf, pattern.LeafAt keys leaf ->
    forall test, leaf.Consults test -> Pattern.EndsInOrder test

namespace Deriver

/-- The keys lead to a scalar of the value that is indexed. -/
def Covers (deriver : Deriver) (value : Value) (keys : List PatternKey) : Prop :=
  ∃ names scalar, QueryTerm.pathAccepts keys names = true ∧ value.Leads names scalar ∧
    scalar.HasLeaf ∧ deriver.withinDeclared nameAdmits names = true

/-- Wherever the pattern asks for anything, its keys lead to a scalar of the value
that is indexed, and no leaf there is an expression as data. -/
def CoversAll (deriver : Deriver) (pattern : Pattern) (value : Value) : Prop :=
  forall keys leaf, pattern.LeafAt keys leaf -> leaf.Asks ->
    deriver.withinDeclared keyAdmits keys = true -> deriver.Covers value keys ∧ ¬ leaf.IsLive

variable {deriver : Deriver} {value : Value} {keys : List PatternKey}

theorem hasLeaf_of_mem_leafParts {scalar : Value} {part : KeyPart}
    (isPart : part ∈ deriver.leafParts scalar) : scalar.HasLeaf := by
  cases scalar with
  | undefined => cases isPart
  | array items => cases isPart
  | object fields => cases isPart
  | _ => exact ⟨rfl, rfl⟩

theorem literalLeaves_of_not_isLive {expected : Value}
    (notLive : ¬ (Pattern.literal expected).IsLive) :
    deriver.literalLeaves expected = (deriver.leafParts expected).map .exact :=
  literalLeaves_eq fun source flags same => Option.not_isSome_iff_eq_none.mp fun compiles =>
    notLive ⟨source, flags, congrArg _ same, compiles⟩

theorem literalLeaves_ne_nil_iff {expected : Value} :
    deriver.literalLeaves expected ≠ [] ↔ expected.HasLeaf := by
  by_cases live : (Pattern.literal expected).IsLive
  · rcases live with ⟨source, flags, same, compiles⟩
    cases same
    rcases Option.isSome_iff_exists.mp compiles with ⟨regex, compiles⟩
    rw [literalLeaves, compiles]
    exact ⟨fun _ => ⟨rfl, rfl⟩, fun _ => List.cons_ne_nil _ _⟩
  · rw [literalLeaves_of_not_isLive live, Ne, List.map_eq_nil_iff]
    refine ⟨fun some => ?_, deriver.leafParts_ne_nil⟩
    rcases List.exists_mem_of_ne_nil _ some with ⟨part, isPart⟩
    exact hasLeaf_of_mem_leafParts isPart

/-- A leaf that asks for something has terms unless they are pruned. -/
theorem exists_term_iff {leaf : Pattern} (isLeaf : leaf.isNested = false) :
    (∃ term, term ∈ deriver.queryTermsAt keys leaf) ↔
      leaf.Asks ∧ deriver.withinDeclared keyAdmits keys = true := by
  have asked (leaves : List TermLeaf) : (∃ term, term ∈ deriver.queryLeaves keys leaves) ↔
      leaves ≠ [] ∧ deriver.withinDeclared keyAdmits keys = true := by
    simp only [mem_queryLeaves_iff]
    constructor
    · rintro ⟨_, within, asked, isAsked, rfl⟩
      exact ⟨List.ne_nil_of_mem isAsked, within⟩
    · rintro ⟨some, within⟩
      rcases List.exists_mem_of_ne_nil _ some with ⟨asked, isAsked⟩
      exact ⟨_, within, asked, isAsked, rfl⟩
  cases leaf with
  | nested fields => cases isLeaf
  | literal expected => exact (asked _).trans (and_congr_left fun _ => literalLeaves_ne_nil_iff)
  | _ => exact (asked _).trans (and_congr_left fun _ => iff_of_true (List.cons_ne_nil _ _) trivial)

end Deriver

namespace Database

variable {database : Database} {key typeName : String} {record : StoredRecord}
  {pattern leaf : Pattern} {keys : List PatternKey} {term : QueryTerm}

/-! ## What is found is covered -/

theorem covers_of_found (orderly : database.Orderly) (holds : database.IndexesHold)
    (isRecord : database.store.records.get? key = some record)
    (isTyped : record.typeName = some typeName) (isLeaf : leaf.isNested = false)
    (isTerm : term ∈ (database.queryDeriver (some typeName)).queryTermsAt keys leaf)
    (found : key ∈ TermScan.finds database.store (some typeName)
      database.config.tokenizer?.isSome term) :
    (database.queryDeriver (some typeName)).Covers record.value keys := by
  rcases orderly.held_of_found holds isRecord isTyped found with ⟨held, isHeld, accepts, _⟩
  rcases Deriver.mem_recordTerms_iff.mp isHeld with ⟨scalar, leads, _, within, isPart⟩
  unfold QueryTerm.acceptsPath at accepts
  rw [(Deriver.path_of_mem_leaf isLeaf isTerm).1] at accepts
  exact ⟨held.path, scalar, accepts, leads, Deriver.hasLeaf_of_mem_leafParts isPart, within⟩

/-- The check of a record takes an expression for data, and the query does not
find data by it. -/
theorem not_isLive_of_found (orderly : database.Orderly) (holds : database.IndexesHold)
    (wellFormed : record.value.WellFormed)
    (isRecord : database.store.records.get? key = some record)
    (isTyped : record.typeName = some typeName)
    (isMatch : pattern.verdict record.value = .matched) (leafAt : pattern.LeafAt keys leaf)
    (isTerm : term ∈ (database.queryDeriver (some typeName)).queryTermsAt keys leaf)
    (found : key ∈ TermScan.finds database.store (some typeName)
      database.config.tokenizer?.isSome term) : ¬ leaf.IsLive := by
  rintro ⟨source, flags, rfl, compiles⟩
  rcases Option.isSome_iff_exists.mp compiles with ⟨regex, compiles⟩
  rcases orderly.held_of_found holds isRecord isTyped found with ⟨held, isHeld, accepts, matched⟩
  rcases Deriver.mem_recordTerms_iff.mp isHeld with ⟨scalar, leads, _⟩
  rcases Deriver.mem_queryLeaves_iff.mp isTerm with ⟨_, asked, isAsked, rfl⟩
  rw [Deriver.literalLeaves, compiles] at isAsked
  cases List.mem_singleton.mp isAsked
  have isData : scalar = .regExp source flags := by
    have equal := Verdict.ofBool_eq_matched.mp (leafAt.matched wellFormed isMatch leads accepts)
    cases scalar with
    | regExp source' flags' =>
        rcases Bool.and_eq_true_iff.mp equal with ⟨sameSource, sameFlags⟩
        rw [eq_of_beq sameSource, eq_of_beq sameFlags]
    | _ => cases equal
  subst isData
  exact Deriver.not_matched_of_isRegExp wellFormed (orderly.isStored isRecord) isHeld
    (leads.getPath? wellFormed) regex matched

/-! ## What is covered is found -/

/-- A record of the type is found when the scan comes to a part of one of its
scalars. -/
theorem mem_finds_of_leads (orderly : database.Orderly) (holds : database.IndexesHold)
    (isRecord : database.store.records.get? key = some record)
    (isTyped : record.typeName = some typeName) {names : List String} {scalar : Value}
    {part : KeyPart} (nonempty : names ≠ []) (leads : record.value.Leads names scalar)
    (within :
      (database.queryDeriver (some typeName)).withinDeclared Deriver.nameAdmits names = true)
    (isPart : part ∈ (database.queryDeriver (some typeName)).leafParts scalar)
    (reaches : term.Reaches database.config.tokenizer?.isSome database.Indexes ⟨names, part⟩ key) :
    key ∈ TermScan.finds database.store (some typeName) database.config.tokenizer?.isSome
      term := by
  refine mem_finds_of_held holds isRecord ?_ (orderly.hasType isRecord isTyped) reaches
  rw [orderly.derivedTerms_eq isRecord isTyped]
  exact Deriver.mem_recordTerms_iff.mpr ⟨scalar, leads, nonempty, within, isPart⟩

/-- A matching record is found for the terms of a leaf whose keys lead to one of
its indexed scalars. -/
theorem mem_finds_of_covers (orderly : database.Orderly) (holds : database.IndexesHold)
    (wellFormed : record.value.WellFormed)
    (isRecord : database.store.records.get? key = some record)
    (isTyped : record.typeName = some typeName)
    (isMatch : pattern.verdict record.value = .matched) (leafAt : pattern.LeafAt keys leaf)
    (nonempty : keys ≠ []) (inOrder : Pattern.EndsInOrder leaf.verdict)
    (isTerm : term ∈ (database.queryDeriver (some typeName)).queryTermsAt keys leaf)
    (covers : (database.queryDeriver (some typeName)).Covers record.value keys)
    (notLive : ¬ leaf.IsLive) :
    key ∈ TermScan.finds database.store (some typeName) database.config.tokenizer?.isSome
      term := by
  rcases covers with ⟨names, scalar, accepts, leads, hasLeaf, within⟩
  have matched := leafAt.matched wellFormed isMatch leads accepts
  have isStored := Value.inherited_isStored.leads leads (orderly.isStored isRecord)
  have namesNonempty : names ≠ [] := by
    rintro rfl
    cases keys with
    | nil => exact nonempty rfl
    | cons _ _ => cases accepts
  have acceptsPath : term.acceptsPath names = true := by
    unfold QueryTerm.acceptsPath
    rw [(Deriver.path_of_mem_leaf leafAt.isNested_eq_false isTerm).1]
    exact accepts
  have tested {test : TermLeaf} (isTest : leaf.testLeaf? = some test)
      (isTerm : term ∈ (database.queryDeriver (some typeName)).queryLeaves keys [test]) :
      key ∈ TermScan.finds database.store (some typeName) database.config.tokenizer?.isSome
        term := by
    rcases Deriver.mem_queryLeaves_iff.mp isTerm with ⟨_, asked, isAsked, rfl⟩
    cases List.mem_singleton.mp isAsked
    rcases List.exists_mem_of_ne_nil _ (Deriver.leafParts_ne_nil _ hasLeaf) with ⟨part, isPart⟩
    have reaches : QueryTerm.Reaches ⟨keys, test⟩
        (database.queryDeriver (some typeName)).tokenizer.isSome database.Indexes ⟨names, part⟩
          key := by
      refine .of_test isTest acceptsPath isStored isPart matched _ key
        fun untokenized other id isIndexed isLeaf less done => ?_
      exact orderly.ne_matched_of_done untokenized inOrder isIndexed isStored isLeaf less done
        matched
    exact mem_finds_of_leads orderly holds isRecord isTyped namesNonempty leads within isPart
      reaches
  cases leaf with
  | nested fields => cases leafAt.isNested_eq_false
  | regex expression => exact tested rfl isTerm
  | predicate test => exact tested rfl isTerm
  | operator comparison => exact tested rfl isTerm
  | literal expected =>
      rcases Deriver.mem_queryLeaves_iff.mp isTerm with ⟨_, asked, isAsked, rfl⟩
      rw [Deriver.literalLeaves_of_not_isLive notLive] at isAsked
      rcases List.mem_map.mp isAsked with ⟨part, isPart, rfl⟩
      rcases Deriver.exists_samePart _ (Verdict.ofBool_eq_matched.mp matched) isPart with
        ⟨held, isHeld, same⟩
      exact mem_finds_of_leads orderly holds isRecord isTyped namesNonempty leads within isHeld
        (.of_exact rfl acceptsPath same _ _ key)

/-! ## Whole patterns -/

/-- The record under the key is of the type and matches the pattern. -/
structure Matches (database : Database) (typeName : String) (pattern : Pattern) (key : String)
    (record : StoredRecord) : Prop where
  isRecord : database.store.records.get? key = some record
  isTyped : record.typeName = some typeName
  isMatch : pattern.isMatch record.value = true

variable {fields : List (PatternKey × Pattern)}

/-- A matching record is found for every term exactly if every leaf meets one of
its indexed scalars. -/
theorem found_iff_coversAll (orderly : database.Orderly) (holds : database.IndexesHold)
    (timely : (Pattern.nested fields).IsTimely)
    (isMatching : database.Matches typeName (.nested fields) key record)
    (wellFormed : record.value.WellFormed) :
    (∀ term ∈ database.queryTerms (.nested fields) (some typeName),
      key ∈ TermScan.finds database.store (some typeName) database.config.tokenizer?.isSome
        term) ↔
      (database.queryDeriver (some typeName)).CoversAll (.nested fields) record.value := by
  rcases isMatching with ⟨isRecord, isTyped, isMatch⟩
  have isMatch : (Pattern.nested fields).verdict record.value = .matched := eq_of_beq isMatch
  constructor
  · intro found keys leaf leafAt asks within
    rcases (Deriver.exists_term_iff leafAt.isNested_eq_false).mpr ⟨asks, within⟩ with
      ⟨term, isTerm⟩
    have found := found term (Deriver.mem_queryTerms_iff.mpr ⟨keys, leaf, leafAt, isTerm⟩)
    exact ⟨covers_of_found orderly holds isRecord isTyped leafAt.isNested_eq_false isTerm found,
      not_isLive_of_found orderly holds wellFormed isRecord isTyped isMatch leafAt isTerm found⟩
  · intro coversAll term isTerm
    rcases Deriver.mem_queryTerms_iff.mp isTerm with ⟨keys, leaf, leafAt, isTerm⟩
    rcases (Deriver.exists_term_iff leafAt.isNested_eq_false).mp ⟨term, isTerm⟩ with
      ⟨asks, within⟩
    rcases coversAll keys leaf leafAt asks within with ⟨covers, notLive⟩
    have nonempty : keys ≠ [] := by
      cases leafAt with
      | here isLeaf => cases isLeaf
      | field => exact List.cons_ne_nil _ _
    exact mem_finds_of_covers orderly holds wellFormed isRecord isTyped isMatch leafAt nonempty
      (leaf.endsInOrder (timely keys leaf leafAt)) isTerm covers notLive

/-- What a query for a type yields matches and is of the type, if names of types
tell them apart. -/
theorem matches_of_yields (orderly : database.Orderly) (holds : database.IndexesHold)
    (plainNames : forall name, (database.registry.get? name).isSome -> '@' ∉ name.toList)
    (isRegistered : (database.registry.get? typeName).isSome)
    {options : IndexOptions} (isType : options.typeName = some typeName)
    (qualifies : database.Qualifies pattern none options key) :
    ∃ record, database.Matches typeName pattern key record := by
  rcases List.exists_mem_of_ne_nil _ qualifies.someTerm with ⟨term, isTerm⟩
  have found := qualifies.found term isTerm
  rw [isType] at found
  rcases record_of_mem_finds orderly holds plainNames isRegistered found with
    ⟨record, isRecord, isTyped⟩
  rcases qualifies.admitted with ⟨record', isRecord', isMatch⟩
  cases isRecord.symm.trans isRecord'
  exact ⟨record, isRecord, isTyped, isMatch⟩

/-- A query for a type yields exactly the matching records of the type if, and
only if, every leaf meets an indexed scalar of each of them. -/
theorem yields_matches_iff (orderly : database.Orderly) (holds : database.IndexesHold)
    (wellFormed : forall key record, database.store.records.get? key = some record ->
      record.value.WellFormed)
    (timely : (Pattern.nested fields).IsTimely)
    (someTerm : database.queryTerms (.nested fields) (some typeName) ≠ [])
    (select : Option Projection) (scanFallback : Bool) {covers : Value -> Prop}
    (coversAll_iff : forall value,
      (database.queryDeriver (some typeName)).CoversAll (.nested fields) value ↔ covers value) :
    let options : IndexOptions := { typeName := some typeName, scanFallback }
    let yields := database.Yields (.nested fields) none select options
    let isMatching := database.Matches typeName (.nested fields)
    database.IsAnswered (.nested fields) none select options ∧
    (forall key record, isMatching key record -> (yields key ↔ covers record.value)) ∧
    ((forall name, (database.registry.get? name).isSome -> '@' ∉ name.toList) ->
      (database.registry.get? typeName).isSome ->
        ((forall key, yields key ↔ ∃ record, isMatching key record) ↔
          forall key record, isMatching key record -> covers record.value)) := by
  intro options yields isMatching
  have one (key : String) (record : StoredRecord) (matching : isMatching key record) :
      yields key ↔ covers record.value := by
    rw [← coversAll_iff, ← found_iff_coversAll orderly holds timely matching
      (wellFormed key record matching.isRecord)]
    exact (yields_iff_found orderly holds matching.isRecord matching.isMatch someTerm select
      scanFallback).2
  rcases yields_typed orderly holds someTerm select scanFallback with ⟨answered, qualifies⟩
  refine ⟨answered, one, fun plainNames isRegistered =>
    ⟨fun same key record matching => ?_, fun all key => ⟨fun isYielded => ?_, ?_⟩⟩⟩
  · exact (one key record matching).mp ((same key).mpr ⟨record, matching⟩)
  · exact matches_of_yields orderly holds plainNames isRegistered rfl
      ((qualifies key).mp isYielded)
  · rintro ⟨record, matching⟩
    exact (one key record matching).mpr (all key record matching)

/-! ## The first record -/

theorem matches_john {fields : List (PatternKey × Pattern)}
    (fieldsMatch : Pattern.fieldsMatch fields john.value = true) :
    (blank.after firstPut).Matches "P" (.nested fields) "P@1" john := by
  refine ⟨found_firstPut, rfl, ?_⟩
  unfold Pattern.isMatch
  rw [Pattern.verdict, fieldsMatch]
  rfl

theorem children_john :
    john.value.children = [("#", .string "P@1"), ("name", .string "john")] :=
  rfl

end Database

end RecordIndex
