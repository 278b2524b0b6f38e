import RecordIndex.Proofs.Query.Ranges

namespace RecordIndex

/-!
# What a scan comes to

An answer to a term lies in the range that is planned for the term and passes
its test.  So the scan takes it, unless an entry before it ends the scan, and
where entries may do so, those before the answer have smaller leaves.
-/

/-- In one path, an entry comes before another one only if its leaf is not
behind. -/
theorem Term.leaf_of_before {names : List String} {part part' : KeyPart} {id id' : String}
    (before : compare (Term.key .byPath ⟨names, part⟩ id) (Term.key .byPath ⟨names, part'⟩ id') =
      .lt) : part.encode = part'.encode ∨ compare part.encode part'.encode = .lt := by
  have keys (part : KeyPart) (id : String) : Term.key .byPath ⟨names, part⟩ id =
      Term.encodePath names ++ (part.encode ++ (KeyPart.text id).encode) :=
    List.append_assoc _ _ _
  rw [keys, keys, Key.compare_append_left] at before
  exact KeyPart.not_gt_of_append before

/-- What lies in an interval of numbers is a number, and so is its leaf. -/
theorem Operator.number_of_mem_leafParts {operator : Operator}
    {bounds : Bound Number × Bound Number} (isRange : operator.numberRange? = some bounds)
    {value : Value} (matched : operator.verdict value = .matched) {deriver : Deriver}
    {leaf : KeyPart} (isLeaf : leaf ∈ deriver.leafParts value) :
    ∃ n, leaf = .number n ∧ KeyRange.IsFrom bounds.1 n ∧ KeyRange.IsTo bounds.2 n := by
  rcases number_of_matched isRange matched with ⟨n, rfl, isNumber, isFrom, isTo⟩
  have isLeaf : leaf ∈ (Value.number n).leafPart?.toList := isLeaf
  rw [Value.leafPart?, isNumber] at isLeaf
  exact ⟨n, List.mem_singleton.mp isLeaf, isFrom, isTo⟩

namespace QueryTerm

/-- The scan for the term comes to what the record holds and takes it, when it
reads no other entries than known ones. -/
structure Reaches (term : QueryTerm) (tokenized : Bool) (known : Term -> String -> Prop)
    (held : Term) (id : String) : Prop where
  accepts : term.acceptsPath held.path = true
  matched : term.leaf.verdict tokenized held.leaf.keyed = .matched
  inRange : (term.plan tokenized).range.admits (held.key (term.plan tokenized).order id) = true
  unfinished : (term.plan tokenized).stopsWhenDone = true -> forall other id', known other id' ->
    term.acceptsPath other.path = true ->
      compare (other.key (term.plan tokenized).order id')
        (held.key (term.plan tokenized).order id) = .lt ->
          term.leaf.verdict tokenized other.leaf.keyed ≠ .done

variable {term : QueryTerm} {tokenized : Bool} {known : Term -> String -> Prop} {held : Term}
  {id : String}

theorem Reaches.of_plan {plan : ScanPlan} (isPlan : term.plan tokenized = plan)
    (accepts : term.acceptsPath held.path = true)
    (matched : term.leaf.verdict tokenized held.leaf.keyed = .matched)
    (inRange : plan.range.admits (held.key plan.order id) = true)
    (unfinished : plan.stopsWhenDone = true -> forall other id', known other id' ->
      term.acceptsPath other.path = true ->
        compare (other.key plan.order id') (held.key plan.order id) = .lt ->
          term.leaf.verdict tokenized other.leaf.keyed ≠ .done) :
    term.Reaches tokenized known held id := by
  subst isPlan
  exact ⟨accepts, matched, inRange, unfinished⟩

/-- The scan that looks a leaf up comes to whatever holds it. -/
theorem Reaches.of_exact {expected : KeyPart} (isExact : term.leaf = .exact expected)
    (accepts : term.acceptsPath held.path = true)
    (same : TermLeaf.samePart expected held.leaf.keyed = true) (tokenized : Bool)
    (known : Term -> String -> Prop) (id : String) : term.Reaches tokenized known held id := by
  have verdict (part : KeyPart) : term.leaf.verdict tokenized part =
      .ofBool (TermLeaf.samePart expected part) := by
    rw [isExact]
    rfl
  have matched : term.leaf.verdict tokenized held.leaf.keyed = .matched := by
    rw [verdict, same]
    rfl
  have noNumbers : ¬ term.ComparesNumbers := by
    rintro ⟨_, operator, bounds, isOperator, _⟩
    cases isExact.symm.trans isOperator
  refine ⟨accepts, matched, ?_, fun _ other _ _ _ _ => ?_⟩
  · rw [← Term.key_keyed]
    exact admits_plan_of_not_comparesNumbers noNumbers
      (show term.acceptsPath held.keyed.path = true from accepts) matched id
  · rw [verdict]
    exact Verdict.ofBool_ne_done _

variable {deriver : Deriver} {pattern : Pattern} {value : Value}

/-- The scan that makes a test comes to a part of a scalar that passes it, if the
test of a whole leaf is not done with a known one that is smaller. -/
theorem Reaches.of_test (isTest : pattern.testLeaf? = some term.leaf)
    (accepts : term.acceptsPath held.path = true) (isStored : value.IsStored)
    (isLeaf : held.leaf ∈ deriver.leafParts value) (matched : pattern.verdict value = .matched)
    (known : Term -> String -> Prop) (id : String)
    (inOrder : deriver.tokenizer = none -> forall other id', known other id' ->
      value.leafPart? = some held.leaf -> compare other.leaf.encode held.leaf.encode = .lt ->
        pattern.verdict (Value.ofLeafPart other.leaf.keyed) ≠ .done) :
    term.Reaches deriver.tokenizer.isSome known held id := by
  have passes (tokenized : Bool) := TermLeaf.verdict_of_testLeaf? isTest tokenized
  have found := Deriver.testStored_of_mem_leafParts isStored isLeaf matched
  rw [← passes] at found
  refine ⟨accepts, found, ?_, ?_⟩
  · by_cases comparesNumbers : term.ComparesNumbers
    · rcases comparesNumbers with ⟨literal, operator, bounds, isOperator, isRange⟩
      rw [isOperator] at isTest
      rw [Pattern.eq_operator_of_testLeaf? isTest] at matched
      rcases Operator.number_of_mem_leafParts isRange matched isLeaf with
        ⟨n, isNumber, isFrom, isTo⟩
      rw [plan_of_numberRange (isNamed_of_isLiteral literal) isOperator isRange]
      change (KeyRange.ofNumbers bounds).admits ((held.leaf.encode ++ _) ++ _) = true
      rw [isNumber, List.append_assoc]
      exact KeyRange.admits_ofNumbers isFrom isTo _
    · rw [← Term.key_keyed]
      exact admits_plan_of_not_comparesNumbers comparesNumbers
        (show term.acceptsPath held.keyed.path = true from accepts) found id
  · intro stops other id' isKnown accepts' before done
    rcases of_stops term _ stops with ⟨literal, isWhole, isOrder⟩
    have untokenized : deriver.tokenizer = none := by
      rw [← Option.not_isSome_iff_eq_none, isWhole]
      exact nofun
    have isPart := Deriver.leafPart?_of_mem_leafParts untokenized isLeaf
    have isNamed := isNamed_of_isLiteral literal
    have samePath := ((acceptsPath_iff isNamed _).mp accepts').symm.trans
      ((acceptsPath_iff isNamed _).mp accepts)
    rw [isOrder, show other = ⟨held.path, other.leaf⟩ by rw [← samePath]] at before
    have done : pattern.verdict (Value.ofLeafPart other.leaf.keyed) = .done := by
      rw [passes, untokenized] at done
      exact done
    rcases Term.leaf_of_before before with same | less
    · rw [KeyPart.encode_inj.mp same, isStored.ofLeafPart isPart, matched] at done
      cases done
    · exact inOrder untokenized other id' isKnown isPart less done

end QueryTerm

namespace Deriver

/-- The scan for a term comes to every answer, if no test of a whole leaf is
done with a known leaf that is smaller than that of a match. -/
theorem Answers.reaches {deriver : Deriver} {term : QueryTerm} {held : Term}
    (answers : deriver.Answers term held) (known : Term -> String -> Prop) (id : String)
    (inOrder : deriver.tokenizer = none -> forall pattern : Pattern,
      pattern.testLeaf? = some term.leaf -> pattern.Definite ->
        forall other id', known other id' -> forall value : Value, value.IsStored ->
          value.leafPart? = some held.leaf -> compare other.leaf.encode held.leaf.encode = .lt ->
            pattern.verdict (Value.ofLeafPart other.leaf.keyed) = .done ->
              pattern.verdict value ≠ .matched) :
    term.Reaches deriver.tokenizer.isSome known held id := by
  cases answers with
  | exact names same =>
      refine .of_exact rfl ?_ same _ known id
      exact (QueryTerm.acceptsPath_iff (QueryTerm.isNamed_map names _) names).mpr rfl
  | tested names isTest definite isStored isLeaf matched =>
      refine .of_test isTest ?_ isStored isLeaf matched known id ?_
      · exact (QueryTerm.acceptsPath_iff (QueryTerm.isNamed_map names _) names).mpr rfl
      · intro untokenized other id' isKnown isPart less done
        exact inOrder untokenized _ isTest definite other id' isKnown _ isStored isPart less done
          matched

end Deriver

end RecordIndex
