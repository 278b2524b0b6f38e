import RecordIndex.Proofs.Query.Answering
import RecordIndex.Proofs.Query.Hits

namespace RecordIndex

/-!
# What a query yields

A query that is not ranked yields the records that are found for each of its
terms and pass the check.  What it yields depends on nothing else, so its range
does not have to be read twice.
-/

/-- A strict query that hands out every hit, and that does not fall back to
reading the records. -/
structure IndexOptions.IsStrict (options : IndexOptions) : Prop where
  notRanked : options.isRanked = false
  allHits : options.offset = 0 ∧ options.limit = none
  noFallback : options.scanFallback = false

theorem IndexOptions.IsStrict.validate {options : IndexOptions} (strict : options.IsStrict) :
    options.validate = .ok () := by
  have noText : options.fullText = none :=
    Option.not_isSome_iff_eq_none.mp (by
      rw [(Bool.or_eq_false_iff.mp strict.notRanked).2]
      exact Bool.false_ne_true)
  unfold IndexOptions.validate
  rw [noText]

namespace Database

variable {database : Database}

section

variable {S Mark : Type} [Source S Mark]

/-- A range is read in one way only. -/
theorem Reads.unique {range : Range S} {first second : List (Hit Mark)}
    (reads : database.Reads range first) (reads' : database.Reads range second) :
    first = second :=
  ((readsUntil_none_iff.mpr reads).unique (readsUntil_none_iff.mpr reads')).1

end

/-- The query is answered, and its hits can be read to the end. -/
def IsAnswered (database : Database) (pattern : Pattern) (valueMatch : Option Pattern)
    (select : Option Projection) (options : IndexOptions) : Prop :=
  ∃ range hits, database.findByIndex pattern valueMatch select options = .ok range ∧
    database.Reads range hits

/-- The query yields the record under the key. -/
def Yields (database : Database) (pattern : Pattern) (valueMatch : Option Pattern)
    (select : Option Projection) (options : IndexOptions) (key : String) : Prop :=
  ∃ range hits, database.findByIndex pattern valueMatch select options = .ok range ∧
    database.Reads range hits ∧ key ∈ hits.map Hit.key

/-- The record under the key is found for every term of the query, and passes
the check. -/
structure Qualifies (database : Database) (pattern : Pattern) (valueMatch : Option Pattern)
    (options : IndexOptions) (key : String) : Prop where
  someTerm : database.queryTerms pattern options.typeName ≠ []
  enough : options.requiredScore (database.queryTerms pattern options.typeName).length ≤
    (database.queryTerms pattern options.typeName).length
  found : ∀ term ∈ database.queryTerms pattern options.typeName,
    key ∈ TermScan.finds database.store options.typeName database.config.tokenizer?.isSome term
  admitted : ∃ record, database.store.records.get? key = some record ∧
    (valueMatch.getD pattern).isMatch record.value = true

theorem admits_indexPage {options : IndexOptions} (notRanked : options.isRanked = false)
    (pattern : Pattern) (valueMatch : Option Pattern) (select : Option Projection)
    (value : Value) :
    (indexPage pattern valueMatch select options).admits value =
      (valueMatch.getD pattern).isMatch value := by
  unfold indexPage Page.admits
  rw [notRanked]
  cases valueMatch with
  | none => rfl
  | some checked => rfl

/-- An unranked query that looks for something is answered, and yields the
records that qualify. -/
theorem reads_unranked (orderly : database.Orderly) (holds : database.IndexesHold)
    {pattern : Pattern} (valueMatch : Option Pattern) (select : Option Projection)
    {options : IndexOptions} (valid : options.validate = .ok ())
    (notRanked : options.isRanked = false) (allHits : options.offset = 0 ∧ options.limit = none)
    (someTerm : database.queryTerms pattern options.typeName ≠ []) :
    ∃ range hits, database.findByIndex pattern valueMatch select options = .ok range ∧
      database.Reads range hits ∧ forall key, key ∈ hits.map Hit.key ↔
        database.Qualifies pattern valueMatch options key := by
  rcases findByIndex_spec orderly.readsRows (readable_of_indexesHold holds) pattern valid someTerm
    allHits valueMatch select with ⟨range, candidates, opened, reads, _, deserves⟩
  refine ⟨range, _, opened, reads, fun key => ?_⟩
  have isKey := (Page.mem_keys_iff (candidates.filterMap
    ((indexPage pattern valueMatch select options).hit? database.store)) key).trans
      (exists_congr fun mark => Page.exists_hit_iff _ _ _ key mark)
  rw [isKey]
  simp only [deserves, admits_indexPage notRanked]
  constructor
  · rintro ⟨mark, ⟨isRun, _, enough, ranked | isWhole⟩, admitted⟩
    · exact absurd (notRanked.symm.trans ranked) Bool.false_ne_true
    · refine ⟨someTerm, le_of_le_of_eq enough isWhole, ?_, admitted⟩
      exact (IndexMatches.leading_eq_iff _ _ _).mp (isRun.symm.trans isWhole)
  · intro qualifies
    have isWhole := (IndexMatches.leading_eq_iff database.store
      (database.search pattern options) key).mpr qualifies.found
    exact ⟨_, ⟨isWhole.symm, List.length_pos_iff.mpr someTerm, qualifies.enough, .inr rfl⟩,
      qualifies.admitted⟩

/-- A query without terms that does not fall back has no candidates. -/
theorem drain_search_nil (database : Database) {pattern : Pattern} {options : IndexOptions}
    (noFallback : options.scanFallback = false)
    (noTerm : database.queryTerms pattern options.typeName = []) :
    Source.drain database.config.scanBatch database.store (database.search pattern options) =
      .ok [] := by
  have isStep : Source.step database.config.scanBatch database.store
      (database.search pattern options) = (.ends, database.search pattern options) := by
    unfold search
    rw [noTerm]
    unfold IndexMatches.forTerms
    rw [noFallback]
    rfl
  rw [Source.drain_eq isStep]

/-- A strict query is answered, and yields the records that qualify. -/
theorem reads_strict (orderly : database.Orderly) (holds : database.IndexesHold)
    (pattern : Pattern) (valueMatch : Option Pattern) (select : Option Projection)
    {options : IndexOptions} (strict : options.IsStrict) :
    ∃ range hits, database.findByIndex pattern valueMatch select options = .ok range ∧
      database.Reads range hits ∧ forall key, key ∈ hits.map Hit.key ↔
        database.Qualifies pattern valueMatch options key := by
  by_cases noTerm : database.queryTerms pattern options.typeName = []
  · rcases findByIndex_of_drain pattern strict.validate
      (database.drain_search_nil strict.noFallback noTerm) valueMatch select with
      ⟨range, candidates, opened, reads, perm⟩
    rw [List.Perm.eq_nil perm, List.filterMap_nil, Page.cut_nil] at reads
    refine ⟨range, [], opened, reads, fun key => ⟨nofun, fun qualifies => ?_⟩⟩
    exact absurd noTerm qualifies.someTerm
  · exact reads_unranked orderly holds valueMatch select strict.validate strict.notRanked
      strict.allHits noTerm

variable {pattern : Pattern} {valueMatch : Option Pattern} {select : Option Projection}
  {options : IndexOptions}

/-- What is read once is what the query yields. -/
theorem yields_of_reads {yielded : String -> Prop}
    (reads : ∃ range hits, database.findByIndex pattern valueMatch select options = .ok range ∧
      database.Reads range hits ∧ forall key, key ∈ hits.map Hit.key ↔ yielded key) :
    database.IsAnswered pattern valueMatch select options ∧
      forall key, database.Yields pattern valueMatch select options key ↔ yielded key := by
  rcases reads with ⟨range, hits, opened, reads, isKey⟩
  refine ⟨⟨range, hits, opened, reads⟩, fun key => ?_⟩
  rw [← isKey key]
  constructor
  · rintro ⟨range', hits', opened', reads', isHit⟩
    cases opened.symm.trans opened'
    rw [reads.unique reads']
    exact isHit
  · exact fun isHit => ⟨range, hits, opened, reads, isHit⟩

theorem yields_iff (orderly : database.Orderly) (holds : database.IndexesHold)
    (pattern : Pattern) (valueMatch : Option Pattern) (select : Option Projection)
    {options : IndexOptions} (strict : options.IsStrict) (key : String) :
    database.Yields pattern valueMatch select options key ↔
      database.Qualifies pattern valueMatch options key :=
  (yields_of_reads (reads_strict orderly holds pattern valueMatch select strict)).2 key

/-- A query for a type that looks for something is answered, and yields the
records that qualify. -/
theorem yields_typed (orderly : database.Orderly) (holds : database.IndexesHold)
    {typeName : String} (someTerm : database.queryTerms pattern (some typeName) ≠ [])
    (select : Option Projection) (scanFallback : Bool) :
    let options : IndexOptions := { typeName := some typeName, scanFallback }
    database.IsAnswered pattern none select options ∧
      forall key, database.Yields pattern none select options key ↔
        database.Qualifies pattern none options key := by
  intro options
  have valid : options.validate = .ok () := rfl
  exact yields_of_reads (reads_unranked orderly holds none select valid rfl ⟨rfl, rfl⟩ someTerm)

/-- Such a query yields a record that matches if it is found for every term. -/
theorem yields_iff_found (orderly : database.Orderly) (holds : database.IndexesHold)
    {key typeName : String} {record : StoredRecord}
    (isRecord : database.store.records.get? key = some record)
    (isMatch : pattern.isMatch record.value = true)
    (someTerm : database.queryTerms pattern (some typeName) ≠ []) (select : Option Projection)
    (scanFallback : Bool) :
    let options : IndexOptions := { typeName := some typeName, scanFallback }
    database.IsAnswered pattern none select options ∧
      (database.Yields pattern none select options key ↔
        ∀ term ∈ database.queryTerms pattern (some typeName),
          key ∈ TermScan.finds database.store (some typeName) database.config.tokenizer?.isSome
            term) := by
  intro options
  rcases yields_typed orderly holds someTerm select scanFallback with ⟨answered, yields⟩
  refine ⟨answered, (yields key).trans ⟨fun qualifies => qualifies.found, fun found => ?_⟩⟩
  exact ⟨someTerm, Nat.zero_le _, found, record, isRecord, isMatch⟩

end Database

end RecordIndex
