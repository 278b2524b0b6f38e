import RecordIndex.Proofs.Pattern.Leaves
import RecordIndex.Proofs.Query.Answering
import RecordIndex.Proofs.Query.Hits

namespace RecordIndex

/-!
# Ranked queries

A ranked query is meant to count the terms that a record shares with it,
whichever they are.  It goes through its terms one after another and drops a
record at the first one that the record lacks, so what it counts are the shared
terms in front of that one.  These are all of them exactly when the terms that a
record shares come first.
-/

namespace Value

/-- A string, a number, a truth value, null or a date. -/
def IsPlain : Value -> Prop
  | .string _ => True
  | .number _ => True
  | .bool _ => True
  | .null => True
  | .date _ => True
  | _ => False

end Value

namespace Pattern

mutual

/-- Plain names lead to plain literals. -/
def IsPlain : Pattern -> Prop
  | .nested fields => ArePlain fields
  | .literal value => value.IsPlain
  | _ => False
termination_by structural pattern => pattern

def ArePlain : List (PatternKey × Pattern) -> Prop
  | [] => True
  | (key, pattern) :: rest => (∃ name, key = .name name) ∧ IsPlain pattern ∧ ArePlain rest
termination_by structural fields => fields

end

theorem arePlain_iff {fields : List (PatternKey × Pattern)} :
    ArePlain fields ↔ ∀ field ∈ fields, (∃ name, field.1 = .name name) ∧ field.2.IsPlain := by
  induction fields with
  | nil => exact ⟨fun _ => List.forall_mem_nil _, fun _ => trivial⟩
  | cons field rest ih => rw [ArePlain, ih, List.forall_mem_cons, and_assoc]

/-- Plain names lead to the leaves, which are plain literals. -/
theorem LeafAt.literal_of_isPlain {pattern leaf : Pattern} {keys : List PatternKey}
    (leafAt : pattern.LeafAt keys leaf) (plain : pattern.IsPlain) :
    ∃ (names : List String) (value : Value), keys = names.map .name ∧ leaf = .literal value ∧
      value.IsPlain := by
  induction leafAt with
  | @here leaf isLeaf =>
      cases leaf with
      | literal value => exact ⟨[], value, rfl, rfl, plain⟩
      | nested fields => cases isLeaf
      | _ => exact plain.elim
  | field isField _ ih =>
      rcases arePlain_iff.mp plain _ isField with ⟨⟨name, isName⟩, below⟩
      rcases ih below with ⟨names, value, areNames, isLiteral⟩
      exact ⟨name :: names, value, by rw [areNames, List.map_cons, ← isName], isLiteral⟩

end Pattern

/-! ## Terms that are looked up -/

/-- The term asks for a known part of some value at a path of plain names. -/
def QueryTerm.IsLookup (deriver : Deriver) (term : QueryTerm) : Prop :=
  ∃ (names : List String) (leaf : KeyPart) (value : Value),
    term = ⟨names.map .name, .exact leaf⟩ ∧ leaf ∈ deriver.leafParts value

theorem Value.IsPlain.isData {value : Value} (plain : value.IsPlain) (source flags : String) :
    value ≠ .regExp source flags := by
  rintro rfl
  exact plain

/-- Plain patterns only look up known leaves. -/
theorem Deriver.isLookup_of_mem_queryTerms (deriver : Deriver)
    {fields : List (PatternKey × Pattern)} (plain : Pattern.ArePlain fields) :
    ∀ term ∈ deriver.queryTerms (.nested fields), term.IsLookup deriver := by
  intro term member
  rcases mem_queryTerms_iff.mp member with ⟨keys, leaf, leafAt, member⟩
  rcases leafAt.literal_of_isPlain plain with ⟨names, value, rfl, rfl, plain⟩
  rcases mem_queryLeaves_iff.mp member with ⟨_, leaf, isLeaf, rfl⟩
  rw [literalLeaves_of_isData plain.isData] at isLeaf
  rcases List.mem_map.mp isLeaf with ⟨part, isPart, rfl⟩
  exact ⟨names, part, value, rfl, isPart⟩

namespace Database

variable {database : Database}

/-! ## Shared terms -/

/-- The record is indexed under what the term asks for. -/
def holdsTerm (database : Database) (record : StoredRecord) (term : QueryTerm) : Bool :=
  match term.literalPath?, term.leaf with
  | some path, .exact leaf => (database.expectedTerms record).contains (Term.encode ⟨path, leaf⟩)
  | _, _ => false

/-- How many of the terms the record holds. -/
def heldCount (database : Database) (record : StoredRecord) (terms : List QueryTerm) : Nat :=
  terms.countP (database.holdsTerm record)

/-- How many terms the record holds before the first one that it lacks. -/
def heldRun (database : Database) (record : StoredRecord) (terms : List QueryTerm) : Nat :=
  (terms.takeWhile (database.holdsTerm record)).length

theorem heldRun_le_heldCount (database : Database) (record : StoredRecord)
    (terms : List QueryTerm) : database.heldRun record terms ≤ database.heldCount record terms := by
  unfold heldRun heldCount
  rw [← List.countP_eq_length.mpr (List.all_eq_true.mp List.all_takeWhile)]
  exact (List.takeWhile_sublist _).countP_le

/-- To hold what is looked up is to have a term of the same key. -/
theorem holdsTerm_iff (record : StoredRecord) (names : List String) (leaf : KeyPart) :
    database.holdsTerm record ⟨names.map .name, .exact leaf⟩ = true ↔
      ∃ held ∈ database.derivedTerms record, held.encode = Term.encode ⟨names, leaf⟩ := by
  rw [← TermCounts.contains_ofTerms_iff, ← expectedTerms_eq_ofTerms]
  unfold holdsTerm
  rw [QueryTerm.literalPath?_of_isNamed (QueryTerm.isNamed_map names (.exact leaf))]

/-- A term that is accepted for what is looked up has its key. -/
theorem holdsTerm_of_accepts {record : StoredRecord} {names : List String} {leaf : KeyPart}
    {held : Term} (member : held ∈ database.derivedTerms record)
    (accepts : QueryTerm.acceptsPath ⟨names.map .name, .exact leaf⟩ held.path = true)
    {tokenized : Bool}
    (matched : (TermLeaf.exact leaf).verdict tokenized held.leaf.keyed = .matched) :
    database.holdsTerm record ⟨names.map .name, .exact leaf⟩ = true := by
  have isNamed := QueryTerm.isNamed_map names (.exact leaf)
  have samePath := (QueryTerm.acceptsPath_iff isNamed held.path).mp accepts
  have sameLeaf := TermLeaf.encode_eq_of_samePart (Verdict.ofBool_eq_matched.mp matched)
  refine (holdsTerm_iff record names leaf).mpr ⟨held, member, ?_⟩
  unfold Term.encode
  rw [samePath, sameLeaf, KeyPart.encode_keyed]

/-- A record is found for what is looked up when it holds it. -/
theorem mem_finds_iff_holdsTerm (orderly : database.Orderly) (holds : database.IndexesHold)
    {id : String} {record : StoredRecord}
    (isRecord : database.store.records.get? id = some record) {typeName : Option String}
    (isTyped : TermScan.hasType typeName id = true) {deriver : Deriver}
    (isTokenizer : deriver.tokenizer = database.config.tokenizer?) {term : QueryTerm}
    (isLookup : term.IsLookup deriver) :
    id ∈ TermScan.finds database.store typeName database.config.tokenizer?.isSome term ↔
      database.holdsTerm record term = true := by
  rcases isLookup with ⟨names, leaf, value, rfl, isLeaf⟩
  constructor
  · intro found
    rcases held_of_found holds isRecord found with ⟨held, member, accepts, matched⟩
    exact holdsTerm_of_accepts member accepts matched
  · rw [holdsTerm_iff]
    rintro ⟨held, member, sameKey⟩
    have hasLeaf : Term.HasLeaf ⟨names, leaf⟩ := Deriver.isSegment_of_mem_leafParts isLeaf
    have kept := Term.encode_inj.mp sameKey
    rcases held with ⟨path, part⟩
    rcases Term.mk.inj kept with ⟨samePath, sameLeaf⟩
    subst samePath
    have same : TermLeaf.samePart leaf part.keyed = true := by
      refine TermLeaf.samePart_of_encode_eq ?_ (KeyPart.encode_inj.mpr sameLeaf.symm)
      rintro n rfl
      exact Deriver.isNaN_of_mem_leafParts isLeaf
    exact mem_finds_of_answers orderly holds isTokenizer isRecord member (.exact path same) isTyped

/-- The terms at the front that find a record of the type are those that it
holds. -/
theorem leading_eq_heldRun (orderly : database.Orderly) (holds : database.IndexesHold)
    {fields : List (PatternKey × Pattern)} (plain : Pattern.ArePlain fields)
    (options : IndexOptions) {id : String} {record : StoredRecord}
    (isRecord : database.store.records.get? id = some record)
    (isTyped : TermScan.hasType options.typeName id = true) :
    (database.search (.nested fields) options).leading database.store id =
      database.heldRun record (database.queryTerms (.nested fields) options.typeName) := by
  refine congrArg List.length (takeWhile_congr fun term isTerm => ?_)
  have isLookup := Deriver.isLookup_of_mem_queryTerms (database.queryDeriver options.typeName) plain
    term isTerm
  have isTokenizer :
      (database.queryDeriver options.typeName).tokenizer = database.config.tokenizer? := rfl
  have isFound := mem_finds_iff_holdsTerm orderly holds isRecord isTyped isTokenizer isLookup
  exact Bool.eq_iff_iff.mpr (List.contains_iff_mem.trans isFound)

/-! ## Queries -/

/-- A record of the type is among the hits when it shares enough of the terms,
and its score is how many it shares. -/
def CountsShared (database : Database) (typeName : String) (terms : List QueryTerm)
    (required : Nat) (hits : List (Hit Nat)) : Prop :=
  forall key record, database.store.records.get? key = some record ->
    record.typeName = some typeName ->
      (key ∈ hits.map Hit.key ↔ required ≤ database.heldCount record terms) ∧
        ∀ hit ∈ hits, hit.key = key -> hit.mark = database.heldCount record terms

/-- A record of the type that shares enough of the terms lacks none in front of
one that it shares. -/
def SharesFirst (database : Database) (typeName : String) (terms : List QueryTerm)
    (required : Nat) : Prop :=
  forall key record, database.store.records.get? key = some record ->
    record.typeName = some typeName -> required ≤ database.heldCount record terms ->
      database.heldRun record terms = database.heldCount record terms

/-- What a ranked query yields of the records of its type: those whose run of
held terms is long enough, with the length of the run as their score. -/
theorem ranked_query_yields_runs (orderly : database.Orderly) (holds : database.IndexesHold)
    {fields : List (PatternKey × Pattern)} (plain : Pattern.ArePlain fields)
    {options : IndexOptions} {typeName : String} (isTyped : options.typeName = some typeName)
    (isRanked : options.isRanked = true) (valid : options.validate = .ok ())
    (allHits : options.offset = 0 ∧ options.limit = none)
    (someTerm : database.queryTerms (.nested fields) options.typeName ≠ [])
    (select : Option Projection) :
    let terms := database.queryTerms (.nested fields) options.typeName
    let required := max 1 (options.requiredScore terms.length)
    ∃ range hits,
      database.findByIndex (.nested fields) none select options = .ok range ∧
      database.Reads range hits ∧
      (hits.map Hit.key).Nodup ∧
      forall key record, database.store.records.get? key = some record ->
        record.typeName = some typeName -> forall score,
          (∃ hit ∈ hits, hit.key = key ∧ hit.mark = score) ↔
            score = database.heldRun record terms ∧ required ≤ score := by
  intro terms required
  rcases findByIndex_spec orderly.readsRows (readable_of_indexesHold holds) (.nested fields) valid
    someTerm allHits none select with ⟨range, candidates, opened, reads, nodup, deserves⟩
  refine ⟨range, _, opened, reads, Page.nodup_keys _ _ nodup, ?_⟩
  intro key record isRecord isOfType score
  have begins : TermScan.hasType options.typeName key = true := by
    rw [isTyped]
    exact orderly.hasType isRecord isOfType
  have run := leading_eq_heldRun orderly holds plain options isRecord begins
  have unchecked (value : Value) :
      (indexPage (.nested fields) none select options).admits value = true := by
    unfold indexPage Page.admits
    rw [isRanked]
    rfl
  rw [Page.exists_hit_iff, deserves]
  constructor
  · rintro ⟨⟨isRun, positive, enough, _⟩, _⟩
    exact ⟨isRun.trans run, Nat.max_le.mpr ⟨positive, enough⟩⟩
  · rintro ⟨isRun, enough⟩
    rcases Nat.max_le.mp enough with ⟨positive, enough⟩
    exact ⟨⟨isRun.trans run.symm, positive, enough, .inl isRanked⟩, record, isRecord,
      unchecked record.value⟩

/-- A ranked query counts every shared term exactly when the terms that a record
shares come before those that it lacks. -/
theorem ranked_query_counts_iff {allowed : Database -> Request -> Prop}
    (reachable : Reachable allowed database) (consistent : database.Consistent)
    {fields : List (PatternKey × Pattern)} (plain : Pattern.ArePlain fields)
    {options : IndexOptions} {typeName : String} (isTyped : options.typeName = some typeName)
    (isRanked : options.isRanked = true) (valid : options.validate = .ok ())
    (allHits : options.offset = 0 ∧ options.limit = none)
    (someTerm : database.queryTerms (.nested fields) options.typeName ≠ [])
    (select : Option Projection) :
    let terms := database.queryTerms (.nested fields) options.typeName
    let required := max 1 (options.requiredScore terms.length)
    ∃ range hits,
      database.findByIndex (.nested fields) none select options = .ok range ∧
      database.Reads range hits ∧
      (hits.map Hit.key).Nodup ∧
      (database.CountsShared typeName terms required hits ↔
        database.SharesFirst typeName terms required) := by
  intro terms required
  rcases ranked_query_yields_runs (orderly_of_reachable reachable) (consistent_iff.mp consistent)
    plain isTyped isRanked valid allHits someTerm select with
    ⟨range, hits, opened, reads, nodup, yields⟩
  refine ⟨range, hits, opened, reads, nodup, ?_⟩
  constructor
  · intro counts key record isRecord isOfType enough
    rcases counts key record isRecord isOfType with ⟨isKey, scores⟩
    rcases List.mem_map.mp (isKey.mpr enough) with ⟨hit, isHit, rfl⟩
    have isRun := ((yields _ record isRecord isOfType hit.mark).mp ⟨hit, isHit, rfl, rfl⟩).1
    exact isRun.symm.trans (scores hit isHit rfl)
  · intro first key record isRecord isOfType
    have shorter := database.heldRun_le_heldCount record terms
    have scored : ∀ hit ∈ hits, hit.key = key ->
        required ≤ database.heldCount record terms ∧
          hit.mark = database.heldCount record terms := by
      rintro hit isHit rfl
      rcases (yields _ record isRecord isOfType hit.mark).mp ⟨hit, isHit, rfl, rfl⟩ with
        ⟨isRun, enough⟩
      have enough := Nat.le_trans (isRun ▸ enough) shorter
      exact ⟨enough, isRun.trans (first _ record isRecord isOfType enough)⟩
    refine ⟨?_, fun hit isHit isKey => (scored hit isHit isKey).2⟩
    rw [Page.mem_keys_iff]
    constructor
    · rintro ⟨_, hit, isHit, isKey, _⟩
      exact (scored hit isHit isKey).1
    · intro enough
      have isRun := first key record isRecord isOfType enough
      exact ⟨_, (yields key record isRecord isOfType _).mpr ⟨isRun.symm, enough⟩⟩

/-! ## Two orders of one query -/

/-- To look for someone of one name who is from a place. -/
def johnFromHere : List (PatternKey × Pattern) :=
  [(.name "name", .literal (.string "john")), (.name "place", .literal (.string "here"))]

theorem arePlain_johnFromHere : Pattern.ArePlain johnFromHere :=
  ⟨⟨"name", rfl⟩, trivial, ⟨"place", rfl⟩, trivial, trivial⟩

theorem arePlain_hereJohn : Pattern.ArePlain johnFromHere.reverse :=
  ⟨⟨"place", rfl⟩, trivial, ⟨"name", rfl⟩, trivial, trivial⟩

theorem queryTerms_johnFromHere :
    (blank.after firstPut).queryTerms (.nested johnFromHere) (some "P") =
      [⟨[.name "name"], .exact (.text "john")⟩, ⟨[.name "place"], .exact (.text "here")⟩] := by
  unfold queryTerms
  rw [queryDeriver_after_firstPut]
  rfl

theorem queryTerms_hereJohn :
    (blank.after firstPut).queryTerms (.nested johnFromHere.reverse) (some "P") =
      [⟨[.name "place"], .exact (.text "here")⟩, ⟨[.name "name"], .exact (.text "john")⟩] := by
  unfold queryTerms
  rw [queryDeriver_after_firstPut]
  rfl

theorem holdsTerm_john : (blank.after firstPut).holdsTerm john
    ⟨[.name "name"], .exact (.text "john")⟩ = true := by
  refine (holdsTerm_iff john ["name"] (.text "john")).mpr ⟨⟨["name"], .text "john"⟩, ?_, rfl⟩
  rw [derivedTerms_john]
  exact .tail _ (.head _)

theorem not_holdsTerm_here : (blank.after firstPut).holdsTerm john
    ⟨[.name "place"], .exact (.text "here")⟩ = false := by
  apply Bool.eq_false_iff.mpr
  intro holds
  rcases (holdsTerm_iff john ["place"] (.text "here")).mp holds with ⟨held, member, sameKey⟩
  have hasLeaf : Term.HasLeaf ⟨["place"], .text "here"⟩ := rfl
  have same := Term.encode_inj.mp sameKey
  have samePath : held.path = ["place"] := congrArg Term.path same
  rw [derivedTerms_john] at member
  rcases List.mem_cons.mp member with rfl | member
  · exact absurd samePath (by decide)
  · cases List.mem_singleton.mp member
    exact absurd samePath (by decide)

/-- With the name in front the person counts for one term. -/
theorem ranked_query_counts_john_first :
    let options : IndexOptions := { typeName := some "P", fullText := some .any }
    ∃ range hits,
      (blank.after firstPut).findByIndex (.nested johnFromHere) none none options = .ok range ∧
      (blank.after firstPut).Reads range hits ∧
      (blank.after firstPut).CountsShared "P"
        ((blank.after firstPut).queryTerms (.nested johnFromHere) (some "P")) 1 hits := by
  intro options
  have isTyped : options.typeName = some "P" := rfl
  have someTerm :
      (blank.after firstPut).queryTerms (.nested johnFromHere) options.typeName ≠ [] := by
    rw [queryTerms_johnFromHere]
    exact List.cons_ne_nil _ _
  rcases ranked_query_counts_iff reachable_after_firstPut
    (consistent_iff.mpr indexesHold_after_firstPut) arePlain_johnFromHere isTyped rfl rfl
    ⟨rfl, rfl⟩ someTerm none with ⟨range, hits, opened, reads, _, counts⟩
  refine ⟨range, hits, opened, reads, counts.mpr ?_⟩
  intro key record isRecord _ _
  rcases record_after_firstPut_iff.mp isRecord with ⟨rfl, rfl⟩
  rw [queryTerms_johnFromHere]
  simp [heldRun, heldCount, holdsTerm_john, not_holdsTerm_here]

/-- With the place in front the person is not found at all, in a consistent
database and for one of two terms. -/
theorem ranked_query_misses_john_last :
    let options : IndexOptions := { typeName := some "P", fullText := some .any }
    (blank.after firstPut).Consistent ∧
    ∃ range hits,
      (blank.after firstPut).findByIndex (.nested johnFromHere.reverse) none none options =
        .ok range ∧
      (blank.after firstPut).Reads range hits ∧
      ¬ (blank.after firstPut).CountsShared "P"
        ((blank.after firstPut).queryTerms (.nested johnFromHere.reverse) (some "P")) 1 hits := by
  intro options
  refine ⟨consistent_iff.mpr indexesHold_after_firstPut, ?_⟩
  have isTyped : options.typeName = some "P" := rfl
  have someTerm :
      (blank.after firstPut).queryTerms (.nested johnFromHere.reverse) options.typeName ≠ [] := by
    rw [queryTerms_hereJohn]
    exact List.cons_ne_nil _ _
  rcases ranked_query_yields_runs (orderly_of_reachable reachable_after_firstPut)
    indexesHold_after_firstPut arePlain_hereJohn isTyped rfl rfl ⟨rfl, rfl⟩ someTerm none with
    ⟨range, hits, opened, reads, _, yields⟩
  refine ⟨range, hits, opened, reads, ?_⟩
  intro counts
  have isRecord := record_after_firstPut_iff.mpr ⟨rfl, rfl⟩
  have isShared : 1 ≤ (blank.after firstPut).heldCount john
      ((blank.after firstPut).queryTerms (.nested johnFromHere.reverse) (some "P")) := by
    rw [queryTerms_hereJohn]
    simp [heldCount, holdsTerm_john, not_holdsTerm_here]
  rcases List.mem_map.mp ((counts "P@1" john isRecord rfl).1.mpr isShared) with
    ⟨hit, isHit, isKey⟩
  rcases (yields "P@1" john isRecord rfl hit.mark).mp ⟨hit, isHit, isKey, rfl⟩ with
    ⟨isRun, enough⟩
  rw [queryTerms_hereJohn] at isRun
  rw [isRun] at enough
  simp [heldRun, not_holdsTerm_here] at enough

end Database

end RecordIndex
