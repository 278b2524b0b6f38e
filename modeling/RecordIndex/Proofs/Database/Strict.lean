import RecordIndex.Proofs.Query.Answering
import RecordIndex.Proofs.Query.Hits

namespace RecordIndex

/-!
# Strict queries

A strict query of a type answers what a look at every record of the type would
answer, though it only looks into the indexes.  Whatever it yields has passed
the check of the whole pattern.  What matches the pattern is not missed: it
holds an answer to each term, the answer lies in the range that is scanned for
the term, and no scan is finished before it.
-/

namespace Store

/-- Two names without an at sign that stand before the first one of a key are
one name. -/
theorem eq_of_typePrefix {first second : String} {key : List Char} (plain : '@' ∉ first.toList)
    (plain' : '@' ∉ second.toList) (begins : (typePrefix first).toList <+: key)
    (begins' : (typePrefix second).toList <+: key) : first = second := by
  have cut (name : String) (plain : '@' ∉ name.toList) (rest : List Char) :
      ((typePrefix name).toList ++ rest).takeWhile (fun c => c != '@') = name.toList := by
    have shape : (typePrefix name).toList ++ rest = name.toList ++ '@' :: rest := by
      rw [typePrefix, String.toList_append, List.append_assoc]
      rfl
    have passes : ∀ c ∈ name.toList, (c != '@') = true := by
      intro c member
      apply bne_iff_ne.mpr
      rintro rfl
      exact plain member
    rw [shape, List.takeWhile_append_of_pos passes]
    exact List.append_nil _
  rcases begins with ⟨rest, isKey⟩
  rcases begins' with ⟨rest', isKey'⟩
  have names := cut first plain rest
  rw [isKey, ← isKey', cut second plain' rest'] at names
  exact String.toList_inj.mp names.symm

end Store

namespace Database

variable {database : Database}

/-! ## Queries -/

/-- A record that matches holds an answer to every term of the pattern. -/
theorem answers_of_isMatch (orderly : database.Orderly) {typeName : String}
    {fields : List (PatternKey × Pattern)}
    (searchable : (database.queryDeriver (some typeName)).SearchableFields [] fields)
    {id : String} {record : StoredRecord}
    (isRecord : database.store.records.get? id = some record)
    (isTyped : record.typeName = some typeName)
    (isMatch : (Pattern.nested fields).isMatch record.value = true) :
    ∀ term ∈ database.queryTerms (.nested fields) (some typeName),
      ∃ held ∈ database.derivedTerms record,
        (database.queryDeriver (some typeName)).Answers term held := by
  have matched := Verdict.ofBool_eq_matched.mp (eq_of_beq isMatch)
  rw [orderly.derivedTerms_eq isRecord isTyped]
  exact Deriver.answers_fields (database.queryDeriver (some typeName)) [] fields record.value
    searchable (orderly.isStored isRecord) (Bool.and_eq_true_iff.mp matched).2

/-- A record that matches is found for every term of the pattern. -/
theorem mem_finds_of_isMatch (orderly : database.Orderly) (holds : database.IndexesHold)
    {typeName : String} {fields : List (PatternKey × Pattern)}
    (searchable : (database.queryDeriver (some typeName)).SearchableFields [] fields)
    {id : String} {record : StoredRecord}
    (isRecord : database.store.records.get? id = some record)
    (isTyped : record.typeName = some typeName)
    (isMatch : (Pattern.nested fields).isMatch record.value = true) :
    ∀ term ∈ database.queryTerms (.nested fields) (some typeName),
      id ∈ TermScan.finds database.store (some typeName) database.config.tokenizer?.isSome
        term := by
  intro term isTerm
  rcases answers_of_isMatch orderly searchable isRecord isTyped isMatch term isTerm with
    ⟨held, isHeld, answers⟩
  exact mem_finds_of_answers orderly holds rfl isRecord isHeld answers
    (orderly.hasType isRecord isTyped)

/-- What is found for a term is a record of the type. -/
theorem record_of_mem_finds (orderly : database.Orderly) (holds : database.IndexesHold)
    (plainNames : forall name, (database.registry.get? name).isSome -> '@' ∉ name.toList)
    {typeName : String} (isRegistered : (database.registry.get? typeName).isSome) {id : String}
    {tokenized : Bool} {term : QueryTerm}
    (found : id ∈ TermScan.finds database.store (some typeName) tokenized term) :
    ∃ record, database.store.records.get? id = some record ∧ record.typeName = some typeName := by
  rcases held_of_mem_finds holds found with ⟨record, isRecord, held, isHeld, _, _, begins⟩
  have kept := orderly.kept id record isRecord
  refine ⟨record, isRecord, ?_⟩
  cases isTyped : record.typeName with
  | none =>
      unfold derivedTerms at isHeld
      rw [isTyped] at isHeld
      cases isHeld
  | some other =>
      have placed := kept.isPlaced
      rw [isTyped] at placed
      have begins' := (Store.isPlaced_iff id other).mp placed
      have begins := (Store.isPrefixOf_iff _ _).mp begins
      exact congrArg some (Store.eq_of_typePrefix (plainNames other (kept.isKnown other isTyped))
        (plainNames typeName isRegistered) begins' begins)

/-- A strict query of a type in a consistent database yields the records of the
type that match the pattern, each of them once, whatever the paths that the type
declares and whether or not its strings are indexed by tokens. -/
theorem strict_query_exact {allowed : Database -> Request -> Prop}
    (reachable : Reachable allowed database) (consistent : database.Consistent)
    (plainNames : forall name, (database.registry.get? name).isSome -> '@' ∉ name.toList)
    {typeName : String} (isRegistered : (database.registry.get? typeName).isSome)
    {fields : List (PatternKey × Pattern)}
    (searchable : (database.queryDeriver (some typeName)).SearchableFields [] fields)
    (someTerm : database.queryTerms (.nested fields) (some typeName) ≠ [])
    (select : Option Projection) (scanFallback : Bool) :
    let options : IndexOptions := { typeName := some typeName, scanFallback }
    ∃ range hits,
      database.findByIndex (.nested fields) none select options = .ok range ∧
      database.Reads range hits ∧
      (hits.map Hit.key).Nodup ∧
      (forall key, key ∈ hits.map Hit.key ↔
        ∃ record, database.store.records.get? key = some record ∧
          record.typeName = some typeName ∧
          (Pattern.nested fields).isMatch record.value = true) ∧
      ∀ hit ∈ hits, ∃ record, database.store.records.get? hit.key = some record ∧
        (indexPage (.nested fields) none select options).Shows record hit := by
  intro options
  have orderly := orderly_of_reachable reachable
  have holds := consistent_iff.mp consistent
  have readable := readable_of_indexesHold holds
  have valid : options.validate = .ok () := rfl
  rcases findByIndex_spec orderly.readsRows readable (.nested fields) valid someTerm ⟨rfl, rfl⟩ none
    select with ⟨range, candidates, opened, reads, nodup, deserves⟩
  refine ⟨range, _, opened, reads, Page.nodup_keys _ _ nodup, fun key => ?_,
    Page.shows_of_mem _ _ _⟩
  -- Every candidate of a strict search has the number of the terms as its mark.
  have isKey : key ∈ (candidates.filterMap ((indexPage (.nested fields) none select options).hit?
      database.store)).map Hit.key ↔ _ :=
    (Page.mem_keys_iff _ key).trans (exists_congr fun mark => Page.exists_hit_iff _ _ _ key mark)
  rw [isKey]
  constructor
  · rintro ⟨mark, isCandidate, record, isRecord, admitted⟩
    have deserved := (deserves _).mp isCandidate
    have everyTerm := (IndexMatches.leading_eq_iff _ _ _).mp
      (deserved.1.symm.trans (deserved.2.2.2.resolve_left nofun))
    rcases List.exists_mem_of_ne_nil _ someTerm with ⟨term, isTerm⟩
    rcases record_of_mem_finds orderly holds plainNames isRegistered (everyTerm term isTerm) with
      ⟨record', isRecord', isTyped⟩
    cases isRecord.symm.trans isRecord'
    exact ⟨record, isRecord, isTyped, admitted⟩
  · rintro ⟨record, isRecord, isTyped, isMatch⟩
    have everyTerm := mem_finds_of_isMatch orderly holds searchable isRecord isTyped isMatch
    have isWhole := (IndexMatches.leading_eq_iff database.store
      (database.search (.nested fields) options) key).mpr everyTerm
    exact ⟨_, (deserves ⟨key, _⟩).mpr ⟨isWhole.symm, List.length_pos_iff.mpr someTerm,
      Nat.zero_le _, .inr rfl⟩, record, isRecord, isMatch⟩

/-! ## A query for the first record -/

/-- To look for the people of one name. -/
def johnFields : List (PatternKey × Pattern) :=
  [(.name "name", .literal (.string "john"))]

theorem searchable_johnFields :
    ((blank.after firstPut).queryDeriver (some "P")).SearchableFields [] johnFields :=
  have isData (source flags : String) : Value.string "john" ≠ .regExp source flags :=
    Value.noConfusion
  ⟨⟨"name", rfl, IntegerText.isCanonical_of_unpadded rfl⟩, .inr (.literal ⟨rfl, rfl⟩ isData), trivial⟩

theorem queryTerms_johnFields : (blank.after firstPut).queryTerms (.nested johnFields) (some "P") =
    [⟨[.name "name"], .exact (.text "john")⟩] := by
  unfold queryTerms
  rw [queryDeriver_after_firstPut]
  rfl

theorem strict_query_finds_john : ∃ range hits,
    (blank.after firstPut).findByIndex (.nested johnFields) none none { typeName := some "P" } =
      .ok range ∧
    (blank.after firstPut).Reads range hits ∧ hits.map Hit.key = ["P@1"] := by
  have someTerm : (blank.after firstPut).queryTerms (.nested johnFields) (some "P") ≠ [] := by
    rw [queryTerms_johnFields]
    exact List.cons_ne_nil _ _
  rcases strict_query_exact reachable_after_firstPut
    (consistent_iff.mpr indexesHold_after_firstPut) plainNames_after_firstPut
    isRegistered_after_firstPut searchable_johnFields someTerm none false with
    ⟨range, hits, opened, reads, nodup, isKey, _⟩
  refine ⟨range, hits, opened, reads, ?_⟩
  refine List.perm_singleton.mp ((List.perm_ext_iff_of_nodup nodup
    (List.nodup_cons.mpr ⟨List.not_mem_nil, List.nodup_nil⟩)).mpr ?_)
  intro key
  rw [isKey, List.mem_singleton]
  constructor
  · rintro ⟨record, isRecord, _⟩
    exact (record_after_firstPut_iff.mp isRecord).1
  · rintro rfl
    exact ⟨john, record_after_firstPut_iff.mpr ⟨rfl, rfl⟩, rfl, rfl⟩

end Database

end RecordIndex
