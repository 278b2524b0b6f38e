import RecordIndex.Proofs.Database.Scores
import RecordIndex.Proofs.Query.Covering
import RecordIndex.Proofs.Regex.Characters

namespace RecordIndex

/-!
# Keys that stand for many properties

The check of a record asks every property that an expression accepts, and is
content when there is none.  The query looks for one of them in the index, and
takes it that an expression may accept whatever name has been declared.  So a
record is missed where an expression accepts none of its properties, or only
such that are not indexed.
-/

namespace Value

theorem hasLeaf_of_isPlain {value : Value} (plain : value.IsPlain) : value.HasLeaf := by
  cases value with
  | string text => exact ⟨rfl, rfl⟩
  | number n => exact ⟨rfl, rfl⟩
  | bool value => exact ⟨rfl, rfl⟩
  | null => exact ⟨rfl, rfl⟩
  | date millis => exact ⟨rfl, rfl⟩
  | _ => exact plain.elim

end Value

namespace Pattern

/-- The leaves are plain literals, whatever the keys that lead to them. -/
def AsksPlainly (pattern : Pattern) : Prop :=
  forall keys leaf, pattern.LeafAt keys leaf -> ∃ value, leaf = .literal value ∧ value.IsPlain

variable {pattern : Pattern}

theorem asksPlainly_of_flat {fields : List (PatternKey × Pattern)}
    (plain : ∀ field ∈ fields, ∃ value, field.2 = .literal value ∧ value.IsPlain) :
    (Pattern.nested fields).AsksPlainly := by
  have flat : ∀ field ∈ fields, field.2.isNested = false := by
    intro field isField
    rcases plain field isField with ⟨value, isLiteral, _⟩
    rw [isLiteral]
    rfl
  intro keys leaf leafAt
  rcases leafAt.of_flat flat with ⟨field, isField, _, rfl⟩
  exact plain field isField

theorem AsksPlainly.isTimely (plainly : pattern.AsksPlainly) : pattern.IsTimely := by
  intro keys leaf leafAt test consults
  rcases plainly keys leaf leafAt with ⟨value, rfl, _⟩
  cases consults

/-- For plain literals it is enough to be covered. -/
theorem AsksPlainly.coversAll_iff (plainly : pattern.AsksPlainly) (deriver : Deriver)
    (value : Value) : deriver.CoversAll pattern value ↔
      forall keys leaf, pattern.LeafAt keys leaf ->
        deriver.withinDeclared Deriver.keyAdmits keys = true -> deriver.Covers value keys := by
  constructor
  · intro coversAll keys leaf leafAt within
    rcases plainly keys leaf leafAt with ⟨expected, rfl, plain⟩
    exact (coversAll keys _ leafAt (Value.hasLeaf_of_isPlain plain) within).1
  · intro covers keys leaf leafAt _ within
    refine ⟨covers keys leaf leafAt within, ?_⟩
    rcases plainly keys leaf leafAt with ⟨expected, rfl, plain⟩
    rintro ⟨source, flags, same, _⟩
    exact plain.isData source flags (Pattern.literal.inj same)

end Pattern

namespace Database

variable {database : Database}

/-- A strict query of a type by plain literals under any keys is answered,
whatever paths the type declares.  It yields a matching record of the type
exactly if all keys that may lead to a declared path do lead to an indexed scalar
of the record.  So it yields the matching records and no others if, and only if,
they do so in each of these records. -/
theorem dynamic_keys_found_iff
    (reachable : Reachable (fun _ request => request.WellFormed) database)
    (consistent : database.Consistent) {typeName : String}
    (isRegistered : (database.registry.get? typeName).isSome)
    {fields : List (PatternKey × Pattern)} (plainly : (Pattern.nested fields).AsksPlainly)
    (someTerm : database.queryTerms (.nested fields) (some typeName) ≠ [])
    (select : Option Projection) (scanFallback : Bool) :
    let deriver := database.queryDeriver (some typeName)
    let options : IndexOptions := { typeName := some typeName, scanFallback }
    let yields := database.Yields (.nested fields) none select options
    let isMatching := database.Matches typeName (.nested fields)
    let covers (value : Value) := forall keys leaf, (Pattern.nested fields).LeafAt keys leaf ->
      deriver.withinDeclared Deriver.keyAdmits keys = true -> deriver.Covers value keys
    database.IsAnswered (.nested fields) none select options ∧
    (forall key record, isMatching key record -> (yields key ↔ covers record.value)) ∧
    ((forall name, (database.registry.get? name).isSome -> '@' ∉ name.toList) ->
      ((forall key, yields key ↔ ∃ record, isMatching key record) ↔
        forall key record, isMatching key record -> covers record.value)) := by
  intro deriver options yields isMatching covers
  rcases yields_matches_iff (orderly_of_reachable reachable) (consistent_iff.mp consistent)
    (wellFormed_of_reachable reachable) plainly.isTimely someTerm select scanFallback
    (plainly.coversAll_iff deriver) with ⟨answered, one, all⟩
  exact ⟨answered, one, fun plainNames => all plainNames isRegistered⟩

/-! ## Keys for the properties of the first record -/

/-- The expression of one letter. -/
def letterExpression (letter : Char) : Regex :=
  ⟨String.singleton letter, Search.ofSet (.spans [⟨letter.toNat, letter.toNat, 1⟩])⟩

theorem compile?_letters : Regex.compile? "n" "" = some (letterExpression 'n') ∧
    Regex.compile? "x" "" = some (letterExpression 'x') :=
  ⟨rfl, rfl⟩

theorem isMatch_letterExpression (letter : Char) (text : String) :
    (letterExpression letter).isMatch text =
      text.toList.any (CharSet.contains (.spans [⟨letter.toNat, letter.toNat, 1⟩])) :=
  Regex.isMatch_ofSet _ _ text

/-- To look for people all of whose properties with an `n` are one string. -/
def johnByLetter : List (PatternKey × Pattern) :=
  [(.dynamic (letterExpression 'n'), .literal (.string "john"))]

theorem matches_johnByLetter :
    (blank.after firstPut).Matches "P" (.nested johnByLetter) "P@1" john := by
  have others : (letterExpression 'n').isMatch "#" = false := isMatch_letterExpression 'n' "#"
  have own : (letterExpression 'n').isMatch "name" = true := isMatch_letterExpression 'n' "name"
  apply matches_john
  unfold johnByLetter Pattern.fieldsMatch
  dsimp only
  rw [children_john, List.all_cons, List.all_cons, others, own]
  rfl

/-- A person is found by the letter of a property. -/
theorem dynamic_keys_find_john : (blank.after firstPut).Yields (.nested johnByLetter) none none
    { typeName := some "P" } "P@1" := by
  have plainly : (Pattern.nested johnByLetter).AsksPlainly :=
    Pattern.asksPlainly_of_flat (List.forall_mem_singleton.mpr ⟨.string "john", rfl, trivial⟩)
  have someTerm : (blank.after firstPut).queryTerms (.nested johnByLetter) (some "P") ≠ [] := by
    unfold queryTerms
    rw [queryDeriver_after_firstPut]
    exact List.cons_ne_nil _ _
  have yields_iff := (dynamic_keys_found_iff wellFormed_after_firstPut
    (consistent_iff.mpr indexesHold_after_firstPut) isRegistered_after_firstPut plainly someTerm
    none false).2.1 "P@1" john matches_johnByLetter
  refine yields_iff.mpr fun keys leaf leafAt _ => ?_
  rcases leafAt.of_flat (List.forall_mem_singleton.mpr rfl) with ⟨field, isField, rfl, _⟩
  cases List.mem_singleton.mp isField
  have own : (letterExpression 'n').isMatch "name" = true := isMatch_letterExpression 'n' "name"
  refine ⟨["name"], .string "john", Bool.and_eq_true_iff.mpr ⟨own, rfl⟩, ?_, ⟨rfl, rfl⟩, ?_⟩
  · exact .child (.tail _ (.head _)) (.here _)
  · rw [queryDeriver_after_firstPut]
    rfl

/-- To look for people of one name all of whose properties with an `x` are some
string. -/
def johnWithoutLetter : List (PatternKey × Pattern) :=
  [(.name "name", .literal (.string "john")),
    (.dynamic (letterExpression 'x'), .literal (.string "y"))]

theorem matches_johnWithoutLetter :
    (blank.after firstPut).Matches "P" (.nested johnWithoutLetter) "P@1" john := by
  have others : (letterExpression 'x').isMatch "#" = false := isMatch_letterExpression 'x' "#"
  have own : (letterExpression 'x').isMatch "name" = false := isMatch_letterExpression 'x' "name"
  apply matches_john
  unfold johnWithoutLetter Pattern.fieldsMatch Pattern.fieldsMatch
  dsimp only
  rw [children_john, List.all_cons, List.all_cons, others, own]
  rfl

/-- No property of the person has an `x`. -/
theorem not_covers_letter (deriver : Deriver) :
    ¬ deriver.Covers john.value [.dynamic (letterExpression 'x')] := by
  rintro ⟨names, scalar, accepts, leads, _⟩
  cases leads with
  | here => cases accepts
  | child isChild _ =>
      have accepts := (Bool.and_eq_true_iff.mp accepts).1
      rw [children_john] at isChild
      rcases List.mem_cons.mp isChild with same | isChild
      · cases same
        cases accepts.symm.trans (isMatch_letterExpression 'x' "#")
      · cases List.mem_singleton.mp isChild
        cases accepts.symm.trans (isMatch_letterExpression 'x' "name")

/-- A person none of whose properties have an `x` is missed. -/
theorem dynamic_keys_miss_john :
    let database := blank.after firstPut
    let pattern := Pattern.nested johnWithoutLetter
    Regex.compile? "x" "" = some (letterExpression 'x') ∧
      Reachable (fun _ request => request.WellFormed) database ∧ database.Consistent ∧
      (database.registry.get? "P").isSome ∧
      (forall name, (database.registry.get? name).isSome -> '@' ∉ name.toList) ∧
      pattern.AsksPlainly ∧ database.queryTerms pattern (some "P") ≠ [] ∧
      database.Matches "P" pattern "P@1" john ∧
      ¬ database.Yields pattern none none { typeName := some "P" } "P@1" := by
  intro database pattern
  have plainly : pattern.AsksPlainly := by
    refine Pattern.asksPlainly_of_flat (List.forall_mem_cons.mpr ⟨?_, ?_⟩)
    · exact ⟨.string "john", rfl, trivial⟩
    · exact List.forall_mem_singleton.mpr ⟨.string "y", rfl, trivial⟩
  have someTerm : database.queryTerms pattern (some "P") ≠ [] := by
    unfold queryTerms
    rw [queryDeriver_after_firstPut]
    exact List.cons_ne_nil _ _
  refine ⟨compile?_letters.2, wellFormed_after_firstPut,
    consistent_iff.mpr indexesHold_after_firstPut, isRegistered_after_firstPut,
    plainNames_after_firstPut, plainly, someTerm, matches_johnWithoutLetter, fun yields => ?_⟩
  have yields_iff := (yields_matches_iff (orderly_of_reachable wellFormed_after_firstPut)
    indexesHold_after_firstPut (wellFormed_of_reachable wellFormed_after_firstPut)
    plainly.isTimely someTerm none false (plainly.coversAll_iff _)).2.1 "P@1" john
      matches_johnWithoutLetter
  have within : (database.queryDeriver (some "P")).withinDeclared Deriver.keyAdmits
      [.dynamic (letterExpression 'x')] = true := by
    rw [queryDeriver_after_firstPut]
    rfl
  exact not_covers_letter _
    (yields_iff.mp yields _ _ (.field (.tail _ (.head _)) (.here rfl)) within)

end Database

end RecordIndex
