import RecordIndex.Proofs.Database.Scores
import RecordIndex.Proofs.Query.Covering

namespace RecordIndex

/-!
# Negations and missing properties

The check of a record takes a missing property for undefined, which a negation
may well match.  The index has nothing for a property that is missing, so the
query does not see the negation matched there.  It sees every other match, since
the scan for a negation tests whatever scalar lies in its place.
-/

/-- A scalar lies in the very place that the names lead to. -/
def Value.HasScalarAt (value : Value) (names : List String) : Prop :=
  ∃ scalar, value.Leads names scalar ∧ scalar.HasLeaf

namespace Pattern

/-- The leaf asks that something is not so. -/
inductive IsNegation : Pattern -> Prop where
  | neq (value : Value) : IsNegation (.operator (.neq value))
  | not (pattern : Pattern) : IsNegation (.operator (.not pattern))

theorem IsNegation.asks {leaf : Pattern} (negation : leaf.IsNegation) : leaf.Asks := by
  cases negation with
  | neq value => trivial
  | not pattern => trivial

end Pattern

namespace Deriver

variable {deriver : Deriver}

/-- Where everything is indexed, plain names lead to an indexed scalar exactly if
one lies in their place. -/
theorem covers_map_name_iff (everything : deriver.declared = none) (value : Value)
    (names : List String) : deriver.Covers value (names.map .name) ↔ value.HasScalarAt names := by
  have accepts (path : List String) :
      QueryTerm.pathAccepts (names.map .name) path = true ↔ names = path :=
    QueryTerm.acceptsPath_iff (QueryTerm.isNamed_map names (.exact .null)) path
  have within (path : List String) : deriver.withinDeclared nameAdmits path = true := by
    unfold withinDeclared
    rw [everything]
  constructor
  · rintro ⟨path, scalar, isAccepted, leads, hasLeaf, _⟩
    rw [(accepts path).mp isAccepted]
    exact ⟨scalar, leads, hasLeaf⟩
  · rintro ⟨scalar, leads, hasLeaf⟩
    exact ⟨names, scalar, (accepts names).mpr rfl, leads, hasLeaf, within names⟩

theorem coversAll_named_iff (everything : deriver.declared = none) {pattern : Pattern}
    (isNamed : pattern.IsNamed) (value : Value) : deriver.CoversAll pattern value ↔
      forall names leaf, pattern.LeafAt (names.map .name) leaf -> leaf.Asks ->
        value.HasScalarAt names ∧ ¬ leaf.IsLive := by
  have within (keys : List PatternKey) : deriver.withinDeclared keyAdmits keys = true := by
    unfold withinDeclared
    rw [everything]
  constructor
  · intro coversAll names leaf leafAt asks
    rw [← covers_map_name_iff everything]
    exact coversAll _ leaf leafAt asks (within _)
  · intro present keys leaf leafAt asks _
    rcases leafAt.names_of_isNamed isNamed with ⟨names, rfl⟩
    rw [covers_map_name_iff everything]
    exact present names leaf leafAt asks

end Deriver

namespace Database

variable {database : Database}

/-- A strict query of a type for which everything is indexed, by a pattern with
plain names whose predicates are done in the order of leaves, is answered.  It
yields a matching record of the type exactly if for each leaf that asks for
anything, a negation or not, the record has a scalar in its place, and no
expression is among the literals.  In particular, no record is yielded that
lacks what a negation speaks of.  So the query yields the matching records and
no others if, and only if, each of them has a scalar wherever it is asked. -/
theorem negations_found_iff
    (reachable : Reachable (fun _ request => request.WellFormed) database)
    (consistent : database.Consistent) {typeName : String} {schema : Schema}
    (isSchema : database.registry.get? typeName = some schema)
    (everything : schema.indexedPaths = none) {fields : List (PatternKey × Pattern)}
    (areNamed : Pattern.AreNamed fields) (timely : (Pattern.nested fields).IsTimely)
    (someTerm : database.queryTerms (.nested fields) (some typeName) ≠ [])
    (select : Option Projection) (scanFallback : Bool) :
    let options : IndexOptions := { typeName := some typeName, scanFallback }
    let yields := database.Yields (.nested fields) none select options
    let isMatching := database.Matches typeName (.nested fields)
    let present (value : Value) := forall names leaf,
      (Pattern.nested fields).LeafAt (names.map .name) leaf -> leaf.Asks ->
        value.HasScalarAt names ∧ ¬ leaf.IsLive
    database.IsAnswered (.nested fields) none select options ∧
    (forall key record, isMatching key record -> (yields key ↔ present record.value)) ∧
    (forall key record, isMatching key record -> forall names leaf,
      (Pattern.nested fields).LeafAt (names.map .name) leaf -> leaf.IsNegation ->
        ¬ record.value.HasScalarAt names -> ¬ yields key) ∧
    ((forall name, (database.registry.get? name).isSome -> '@' ∉ name.toList) ->
      ((forall key, yields key ↔ ∃ record, isMatching key record) ↔
        forall key record, isMatching key record -> present record.value)) := by
  intro options yields isMatching present
  have declared : (database.queryDeriver (some typeName)).declared = none := by
    unfold queryDeriver
    rw [Option.bind_some, isSchema]
    exact everything
  rcases yields_matches_iff (orderly_of_reachable reachable) (consistent_iff.mp consistent)
    (wellFormed_of_reachable reachable) timely someTerm select scanFallback
    (Deriver.coversAll_named_iff declared areNamed) with ⟨answered, one, all⟩
  refine ⟨answered, one, ?_, fun plainNames => all plainNames (by rw [isSchema]; rfl)⟩
  intro key record matching names leaf leafAt negation missing isYielded
  exact missing ((one key record matching).mp isYielded names leaf leafAt negation.asks).1

/-! ## Negations about the first record -/

/-- To look for people with a property that is not some string. -/
def notFields (name text : String) : List (PatternKey × Pattern) :=
  [(.name name, .operator (.neq (.string text)))]

theorem leafAt_notFields {name text : String} {keys : List PatternKey} {leaf : Pattern}
    (leafAt : (Pattern.nested (notFields name text)).LeafAt keys leaf) :
    keys = [.name name] ∧ leaf = .operator (.neq (.string text)) := by
  rcases leafAt.of_flat (List.forall_mem_singleton.mpr rfl) with ⟨field, isField, isKey, isLeaf⟩
  cases List.mem_singleton.mp isField
  exact ⟨isKey, isLeaf⟩

theorem areNamed_notFields (name text : String) : Pattern.AreNamed (notFields name text) :=
  ⟨⟨name, rfl⟩, trivial, trivial⟩

theorem isTimely_notFields (name text : String) :
    (Pattern.nested (notFields name text)).IsTimely := by
  intro keys leaf leafAt test consults
  rw [(leafAt_notFields leafAt).2] at consults
  cases consults

theorem someTerm_notFields (name text : String) :
    (blank.after firstPut).queryTerms (.nested (notFields name text)) (some "P") ≠ [] := by
  unfold queryTerms
  rw [queryDeriver_after_firstPut]
  exact List.cons_ne_nil _ _

theorem isSchema_after_firstPut :
    (blank.after firstPut).registry.get? "P" = some (.ofType "P") := by
  rw [Table.get?, registry_after_firstPut]
  rfl

/-- A person is found whose name is another one. -/
theorem negations_find_john : (blank.after firstPut).Yields (.nested (notFields "name" "jane"))
    none none { typeName := some "P" } "P@1" := by
  have yields_iff := (negations_found_iff wellFormed_after_firstPut
    (consistent_iff.mpr indexesHold_after_firstPut) isSchema_after_firstPut rfl
    (areNamed_notFields "name" "jane") (isTimely_notFields "name" "jane")
    (someTerm_notFields "name" "jane") none false).2.1 "P@1" john (matches_john rfl)
  refine yields_iff.mpr fun names leaf leafAt _ => ?_
  rcases leafAt_notFields leafAt with ⟨isKey, rfl⟩
  rcases List.map_eq_singleton_iff.mp isKey with ⟨name, rfl, isName⟩
  cases isName
  refine ⟨⟨.string "john", .child (.tail _ (.head _)) (.here _), ⟨rfl, rfl⟩⟩, ?_⟩
  rintro ⟨_, _, same, _⟩
  cases same

/-- A person without a nickname has no other one for the index, but for the check
of the record. -/
theorem negations_miss_john :
    let database := blank.after firstPut
    let pattern := Pattern.nested (notFields "nick" "jo")
    Reachable (fun _ request => request.WellFormed) database ∧ database.Consistent ∧
      database.registry.get? "P" = some (.ofType "P") ∧ (Schema.ofType "P").indexedPaths = none ∧
      (forall name, (database.registry.get? name).isSome -> '@' ∉ name.toList) ∧
      Pattern.AreNamed (notFields "nick" "jo") ∧ pattern.IsTimely ∧
      database.queryTerms pattern (some "P") ≠ [] ∧ database.Matches "P" pattern "P@1" john ∧
      ¬ database.Yields pattern none none { typeName := some "P" } "P@1" := by
  intro database pattern
  have isMatching : database.Matches "P" pattern "P@1" john := matches_john rfl
  have everything : (database.queryDeriver (some "P")).declared = none :=
    congrArg Deriver.declared queryDeriver_after_firstPut
  refine ⟨wellFormed_after_firstPut, consistent_iff.mpr indexesHold_after_firstPut,
    isSchema_after_firstPut, rfl, plainNames_after_firstPut, areNamed_notFields _ _,
    isTimely_notFields _ _, someTerm_notFields _ _, isMatching, fun yields => ?_⟩
  have yields_iff := (yields_matches_iff (orderly_of_reachable wellFormed_after_firstPut)
    indexesHold_after_firstPut (wellFormed_of_reachable wellFormed_after_firstPut)
    (isTimely_notFields _ _) (someTerm_notFields _ _) none false
    (Deriver.coversAll_named_iff everything (areNamed_notFields _ _))).2.1 "P@1" john isMatching
  have present := yields_iff.mp yields ["nick"] _ (.field (.head _) (.here rfl)) trivial
  rcases present.1 with ⟨scalar, leads, _⟩
  cases leads with
  | child isChild _ =>
      rw [children_john] at isChild
      simp at isChild

end Database

end RecordIndex
