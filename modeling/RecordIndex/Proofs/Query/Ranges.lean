import RecordIndex.Proofs.Key.Ends
import RecordIndex.Proofs.Pattern.Comparing
import RecordIndex.Proofs.Term.Answers
import RecordIndex.Proofs.Term.Keys
import RecordIndex.Query.TermScan

namespace RecordIndex

/-!
# What the ranges of keys hold

A plan must not miss anything: the range in which a term is looked for holds
the key of every entry that can satisfy it.  The entries beneath a path begin
with the path, those of a leaf with the path and the leaf, and the leaves
between two numbers lie between the bytes of these.
-/

namespace KeyRange

/-- The key lies in the range. -/
def admits (range : KeyRange) (key : Key) : Bool :=
  range.start.startsBy key && range.stop.stopsAfter key

theorem admits_iff {range : KeyRange} {key : Key} : range.admits key = true ↔
    range.start.startsBy key = true ∧ range.stop.stopsAfter key = true :=
  Bool.and_eq_true_iff

/-! ## Keys with a common beginning -/

/-- The range of the keys that begin with some bytes holds these, and no others. -/
theorem admits_beginningWith_iff (beginning key : Key) :
    (beginningWith beginning).admits key = true ↔ beginning <+: key := by
  rw [admits_iff]
  change (compare beginning key).isLE = true ∧ (behind beginning).stopsAfter key = true ↔ _
  unfold behind
  split
  · rename_i stop isEnd
    rw [Key.prefix_iff_of_isEnd isEnd]
    exact and_congr_right fun _ => Ordering.isLT_iff_eq_lt
  · rename_i noEnd
    rw [Key.prefix_iff_of_noEnd noEnd]
    exact and_iff_left rfl

theorem admits_beginningWith (beginning rest : Key) :
    (beginningWith beginning).admits (beginning ++ rest) = true :=
  (admits_beginningWith_iff beginning _).mpr (List.prefix_append beginning rest)

theorem stopsAfter_behind (beginning rest : Key) :
    (behind beginning).stopsAfter (beginning ++ rest) = true :=
  (admits_iff.mp (admits_beginningWith beginning rest)).2

/-! ## Keys of numbers -/

/-- The number is not before a lower bound. -/
def IsFrom : Bound Number -> Number -> Prop
  | .included low, n => low.rank ≤ n.rank
  | .excluded low, n => low.rank < n.rank
  | .unbounded, _ => True

/-- The number is not behind an upper bound. -/
def IsTo : Bound Number -> Number -> Prop
  | .included high, n => n.rank ≤ high.rank
  | .excluded high, n => n.rank < high.rank
  | .unbounded, _ => True

theorem compare_encode_of_rank_lt {a b : Number} (less : a.rank < b.rank) :
    compare (KeyPart.number a).encode (KeyPart.number b).encode = .lt :=
  (KeyPart.compare_number a b).trans (Int.compare_eq_lt.mpr less)

/-- A key that begins with the smaller number is behind no key of the larger
one. -/
theorem compare_of_rank_lt {a b : Number} (less : a.rank < b.rank) (rest rest' : Key) :
    compare ((KeyPart.number a).encode ++ rest) ((KeyPart.number b).encode ++ rest') = .lt :=
  Key.compare_append_of_length (KeyPart.length_encode_number a b) (compare_encode_of_rank_lt less)
    rest rest'

theorem startsBy_ofNumbers {bounds : Bound Number × Bound Number} {n : Number}
    (isFrom : IsFrom bounds.1 n) (rest : Key) :
    (ofNumbers bounds).start.startsBy ((KeyPart.number n).encode ++ rest) = true := by
  rcases bounds with ⟨low, high⟩
  cases low with
  | unbounded =>
      exact Key.isLE_compare_append (KeyPart.number .zero).typeStart
        ((KeyPart.number n).payload ++ rest)
  | included low =>
      change (compare (KeyPart.number low).encode ((KeyPart.number n).encode ++ rest)).isLE = true
      rcases Int.lt_or_eq_of_le isFrom with less | same
      · have before := compare_of_rank_lt less [] rest
        rw [List.append_nil] at before
        rw [before]
        rfl
      · rw [KeyPart.encode_eq_of_rank_eq same]
        exact Key.isLE_compare_append _ rest
  | excluded low =>
      have before := compare_encode_of_rank_lt (show low.rank < n.rank from isFrom)
      dsimp only [ofNumbers]
      split
      · rename_i stop isEnd
        exact Key.isLE_prefixEnd (KeyPart.length_encode_number low n) isEnd before rest
      · rfl

theorem stopsAfter_ofNumbers {bounds : Bound Number × Bound Number} {n : Number}
    (isTo : IsTo bounds.2 n) (rest : Key) :
    (ofNumbers bounds).stop.stopsAfter ((KeyPart.number n).encode ++ rest) = true := by
  rcases bounds with ⟨low, high⟩
  cases high with
  | unbounded =>
      have before : compare (4 :: ((KeyPart.number n).payload ++ rest)) [5] = .lt :=
        Key.compare_cons_of_lt (by decide) _ _
      exact congrArg Ordering.isLT before
  | included high =>
      change (behind (KeyPart.number high).encode).stopsAfter _ = true
      rcases Int.lt_or_eq_of_le isTo with less | same
      · unfold behind
        split
        · rename_i stop isEnd
          have atEnd := Key.IsBehind.of_isEnd isEnd _ List.prefix_rfl
          exact congrArg Ordering.isLT
            (Std.TransCmp.lt_trans (compare_of_rank_lt less rest []) atEnd)
        · rfl
      · rw [KeyPart.encode_eq_of_rank_eq same]
        exact stopsAfter_behind _ rest
  | excluded high =>
      have before := compare_of_rank_lt (show n.rank < high.rank from isTo) rest []
      rw [List.append_nil] at before
      exact congrArg Ordering.isLT before

theorem admits_ofNumbers {bounds : Bound Number × Bound Number} {n : Number}
    (isFrom : IsFrom bounds.1 n) (isTo : IsTo bounds.2 n) (rest : Key) :
    (ofNumbers bounds).admits ((KeyPart.number n).encode ++ rest) = true :=
  admits_iff.mpr ⟨startsBy_ofNumbers isFrom rest, stopsAfter_ofNumbers isTo rest⟩

end KeyRange

/-! ## Comparisons with numbers -/

namespace Operator

open KeyRange

variable {bound value : Value} {n : Number} {admits : Ordering -> Bool}

/-- What passes a lower bound is a number, which lies on the side that the
bound admits. -/
theorem number_of_lower (isFinite : finite? bound = some n)
    (matched : lower value bound admits = .matched) :
    ∃ m, value = .number m ∧ m.isNaN = false ∧ admits (compare m.rank n.rank) = true := by
  rcases finite?_eq_some isFinite with ⟨rfl, _⟩
  rcases lower_eq_matched matched with ⟨order, compared, admitted⟩
  rcases Value.compare?_number compared with ⟨m, rfl, isNumber, rfl⟩
  exact ⟨m, rfl, isNumber, admitted⟩

theorem number_of_upper (isFinite : finite? bound = some n)
    (matched : upper value bound admits = .matched) :
    ∃ m, value = .number m ∧ m.isNaN = false ∧ admits (compare m.rank n.rank) = true := by
  rcases finite?_eq_some isFinite with ⟨rfl, _⟩
  rcases upper_eq_matched matched with ⟨order, compared, admitted⟩
  rcases Value.compare?_number compared with ⟨m, rfl, isNumber, rfl⟩
  exact ⟨m, rfl, isNumber, admitted⟩

/-- What an operator with an interval of numbers matches is a number in it. -/
theorem number_of_matched {operator : Operator} {bounds : Bound Number × Bound Number}
    (isRange : operator.numberRange? = some bounds) {value : Value}
    (matched : operator.verdict value = .matched) :
    ∃ m, value = .number m ∧ m.isNaN = false ∧ IsFrom bounds.1 m ∧ IsTo bounds.2 m := by
  cases operator with
  | lt bound =>
      rcases Option.map_eq_some_iff.mp isRange with ⟨n, isFinite, rfl⟩
      rcases number_of_upper isFinite matched with ⟨m, rfl, isNumber, less⟩
      exact ⟨m, rfl, isNumber, trivial, Int.compare_eq_lt.mp (Ordering.isLT_iff_eq_lt.mp less)⟩
  | lte bound =>
      rcases Option.map_eq_some_iff.mp isRange with ⟨n, isFinite, rfl⟩
      rcases number_of_upper isFinite matched with ⟨m, rfl, isNumber, atMost⟩
      exact ⟨m, rfl, isNumber, trivial, Int.isLE_compare.mp atMost⟩
  | gt bound =>
      rcases Option.map_eq_some_iff.mp isRange with ⟨n, isFinite, rfl⟩
      rcases number_of_lower isFinite matched with ⟨m, rfl, isNumber, more⟩
      exact ⟨m, rfl, isNumber, Int.compare_eq_gt.mp (Ordering.isGT_iff_eq_gt.mp more), trivial⟩
  | gte bound =>
      rcases Option.map_eq_some_iff.mp isRange with ⟨n, isFinite, rfl⟩
      rcases number_of_lower isFinite matched with ⟨m, rfl, isNumber, atLeast⟩
      exact ⟨m, rfl, isNumber, Int.isGE_compare.mp atLeast, trivial⟩
  | eq expected =>
      rcases Option.map_eq_some_iff.mp isRange with ⟨n, isFinite, rfl⟩
      rcases finite?_eq_some isFinite with ⟨rfl, isNumber⟩
      have equal := Verdict.ofBool_eq_matched.mp matched
      cases value with
      | number m =>
          rcases Bool.or_eq_true_iff.mp equal with equal | noNumbers
          · rcases Value.rank_eq_of_equals equal with ⟨isNumber', _, ranks⟩
            exact ⟨m, rfl, isNumber', Int.le_of_eq ranks.symm, Int.le_of_eq ranks⟩
          · rw [isNumber, Bool.and_false] at noNumbers
            cases noNumbers
      | _ => cases equal
  | between low high =>
      rcases Option.bind_eq_some_iff.mp isRange with ⟨a, isLow, isRange⟩
      rcases Option.bind_eq_some_iff.mp isRange with ⟨b, isHigh, isRange⟩
      cases isRange
      have both := interval_eq_matched matched
      rcases number_of_lower isLow both.1 with ⟨m, rfl, isNumber, atLeast⟩
      rcases number_of_upper isHigh both.2 with ⟨m', same, _, atMost⟩
      cases same
      exact ⟨m, rfl, isNumber, Int.isGE_compare.mp atLeast, Int.isLE_compare.mp atMost⟩
  | _ => cases isRange

end Operator

/-! ## Plans -/

namespace QueryTerm

/-- The term asks for a path of plain names. -/
def IsNamed (term : QueryTerm) (names : List String) : Prop :=
  term.path = names.map PatternKey.name

theorem isNamed_map (names : List String) (leaf : TermLeaf) :
    IsNamed ⟨names.map .name, leaf⟩ names :=
  rfl

variable {term : QueryTerm} {names : List String}

theorem literalPath?_of_isNamed (isNamed : term.IsNamed names) :
    term.literalPath? = some names := by
  unfold literalPath?
  rw [show term.path = names.map PatternKey.name from isNamed]
  clear isNamed
  induction names with
  | nil => rfl
  | cons name rest ih =>
      rw [List.map_cons, List.mapM_cons, ih]
      rfl

theorem isLiteral_of_isNamed (isNamed : term.IsNamed names) : term.isLiteral = true :=
  congrArg Option.isSome (literalPath?_of_isNamed isNamed)

theorem literalPrefix_of_isNamed (isNamed : term.IsNamed names) : term.literalPrefix = names := by
  unfold literalPrefix
  rw [show term.path = names.map PatternKey.name from isNamed]
  clear isNamed
  induction names with
  | nil => rfl
  | cons name rest ih => exact congrArg (name :: ·) ih

/-- Plain names accept themselves alone. -/
theorem acceptsPath_iff (isNamed : term.IsNamed names) (path : List String) :
    term.acceptsPath path = true ↔ names = path := by
  unfold acceptsPath
  rw [show term.path = names.map PatternKey.name from isNamed]
  clear isNamed
  induction names generalizing path with
  | nil =>
      cases path with
      | nil => exact ⟨fun _ => rfl, fun _ => rfl⟩
      | cons name path => exact ⟨nofun, nofun⟩
  | cons name rest ih =>
      cases path with
      | nil => exact ⟨nofun, nofun⟩
      | cons name' path =>
          rw [List.map_cons, pathAccepts, Bool.and_eq_true_iff, ih, List.cons.injEq,
            PatternKey.accepts, beq_iff_eq]

/-- A comparison of numbers is a range of the leaves. -/
theorem plan_of_numberRange (isNamed : term.IsNamed names) {operator : Operator}
    (isLeaf : term.leaf = .operator operator) {bounds : Bound Number × Bound Number}
    (isRange : operator.numberRange? = some bounds) (tokenized : Bool) :
    term.plan tokenized = ⟨.byValue, .ofNumbers bounds, false⟩ := by
  unfold plan
  rw [isLeaf]
  dsimp only
  rw [isRange]
  dsimp only
  rw [if_pos (isLiteral_of_isNamed isNamed)]

/-- Any other test is looked for beneath the path. -/
theorem plan_of_test {pattern : Pattern} (isTest : pattern.testLeaf? = some term.leaf)
    (noRange : forall operator bounds, term.leaf = .operator operator ->
      operator.numberRange? ≠ some bounds) (tokenized : Bool) :
    term.plan tokenized = term.pathPlan tokenized := by
  unfold plan
  split
  · rename_i leaf isExact
    rw [isExact] at isTest
    cases pattern with
    | _ => cases isTest
  · rename_i operator isOperator
    split
    · rename_i bounds isBounds
      exact absurd isBounds (noRange operator bounds isOperator)
    · rfl
  · rfl

theorem pathPlan_of_isNamed (isNamed : term.IsNamed names) (tokenized : Bool) :
    term.pathPlan tokenized =
      ⟨.byPath, .beginningWith (Term.encodePath names), !tokenized⟩ := by
  unfold pathPlan
  rw [isLiteral_of_isNamed isNamed, literalPrefix_of_isNamed isNamed, Bool.true_and]

/-- Only a scan beneath a path of plain names in whole strings may stop. -/
theorem of_stops (term : QueryTerm) (tokenized : Bool)
    (stops : (term.plan tokenized).stopsWhenDone = true) :
    term.isLiteral = true ∧ tokenized = false ∧ (term.plan tokenized).order = .byPath := by
  have stopsAtPath (stops : (term.isLiteral && !tokenized) = true) :
      term.isLiteral = true ∧ tokenized = false :=
    ⟨(Bool.and_eq_true_iff.mp stops).1, (Bool.not_eq_true' _).mp (Bool.and_eq_true_iff.mp stops).2⟩
  unfold plan at stops ⊢
  split at stops
  · split at stops
    all_goals cases stops
  · split at stops
    · split at stops
      · cases stops
      · rename_i dynamic
        exact absurd (stopsAtPath stops).1 dynamic
    · exact ⟨(stopsAtPath stops).1, (stopsAtPath stops).2, rfl⟩
  · exact ⟨(stopsAtPath stops).1, (stopsAtPath stops).2, rfl⟩

/-- What has the leaf that is asked for lies in the range of that leaf. -/
theorem admits_of_leaf (names : List String) {expected leaf : KeyPart}
    (same : expected.encode = leaf.encode) (id : String) :
    (KeyRange.beginningWith (Term.encodePath names ++ expected.encode)).admits
      (Term.key .byPath ⟨names, leaf⟩ id) = true := by
  rw [same]
  exact KeyRange.admits_beginningWith _ _

/-- What lies beneath the path lies in the range of the path. -/
theorem admits_of_path (names : List String) (leaf : KeyPart) (id : String) :
    (KeyRange.beginningWith (Term.encodePath names)).admits
      (Term.key .byPath ⟨names, leaf⟩ id) = true := by
  change (KeyRange.beginningWith _).admits ((_ ++ _) ++ _) = true
  rw [List.append_assoc]
  exact KeyRange.admits_beginningWith _ _

/-! ## What satisfies a term -/

/-- The term compares with finite numbers at a path of plain names. -/
def ComparesNumbers (term : QueryTerm) : Prop :=
  term.isLiteral = true ∧ ∃ operator bounds, term.leaf = .operator operator ∧
    operator.numberRange? = some bounds

/-- A path of plain names is its own beginning. -/
theorem isNamed_of_isLiteral (literal : term.isLiteral = true) :
    term.IsNamed term.literalPrefix := by
  rcases term with ⟨path, leaf⟩
  unfold isLiteral literalPath? at literal
  change path = (namesOf path).map PatternKey.name
  dsimp only at literal
  induction path with
  | nil => rfl
  | cons key rest ih =>
      rw [List.mapM_cons] at literal
      cases key with
      | dynamic regex => cases literal
      | name name =>
          cases isRest : rest.mapM PatternKey.name? with
          | none =>
              rw [isRest] at literal
              cases literal
          | some names => exact congrArg (.name name :: ·) (ih (by rw [isRest]; rfl))

/-- What a term accepts begins with the plain names that its path begins with. -/
theorem exists_append_of_acceptsPath {path : List String}
    (accepts : term.acceptsPath path = true) : ∃ rest, path = term.literalPrefix ++ rest := by
  rcases term with ⟨keys, leaf⟩
  unfold acceptsPath at accepts
  change ∃ rest, path = namesOf keys ++ rest
  dsimp only at accepts
  induction keys generalizing path with
  | nil => exact ⟨path, rfl⟩
  | cons key keys ih =>
      cases key with
      | dynamic regex => exact ⟨path, rfl⟩
      | name name =>
          cases path with
          | nil => cases accepts
          | cons name' path =>
              rcases Bool.and_eq_true_iff.mp accepts with ⟨same, later⟩
              rcases ih later with ⟨rest, rfl⟩
              exact ⟨rest, congrArg (· :: _) (eq_of_beq same).symm⟩

theorem encodePath_append (path rest : List String) :
    Term.encodePath (path ++ rest) = Term.encodePath path ++ Term.encodePath rest := by
  unfold Term.encodePath
  rw [List.map_append, Key.encode_append]

/-- The range of a path holds everything that the term accepts. -/
theorem admits_pathPlan {held : Term} (accepts : term.acceptsPath held.path = true)
    (tokenized : Bool) (id : String) :
    (term.pathPlan tokenized).range.admits (held.key (term.pathPlan tokenized).order id) =
      true := by
  rcases exists_append_of_acceptsPath accepts with ⟨rest, isPath⟩
  change (KeyRange.beginningWith (Term.encodePath term.literalPrefix)).admits
    ((Term.encodePath held.path ++ _) ++ _) = true
  rw [isPath, encodePath_append, List.append_assoc, List.append_assoc]
  exact KeyRange.admits_beginningWith _ _

/-- A term that does not compare with numbers has everything in its range that
satisfies it. -/
theorem admits_plan_of_not_comparesNumbers (noNumbers : ¬ term.ComparesNumbers) {tokenized : Bool}
    {held : Term} (accepts : term.acceptsPath held.path = true)
    (matched : term.leaf.verdict tokenized held.leaf = .matched) (id : String) :
    (term.plan tokenized).range.admits (held.key (term.plan tokenized).order id) = true := by
  unfold plan
  split
  · rename_i expected isExact
    rw [isExact] at matched
    have same := TermLeaf.encode_eq_of_samePart (Verdict.ofBool_eq_matched.mp matched)
    split
    · rename_i literal
      have isPath := (acceptsPath_iff (isNamed_of_isLiteral literal) _).mp accepts
      rw [isPath]
      exact admits_of_leaf held.path same id
    · rcases exists_append_of_acceptsPath accepts with ⟨rest, isPath⟩
      change (KeyRange.beginningWith (expected.encode ++ Term.encodePath term.literalPrefix)).admits
        ((held.leaf.encode ++ Term.encodePath held.path) ++ _) = true
      rw [isPath, encodePath_append, same, ← List.append_assoc, List.append_assoc]
      exact KeyRange.admits_beginningWith _ _
  · rename_i operator isOperator
    split
    · rename_i bounds isRange
      split
      · rename_i literal
        exact absurd ⟨literal, operator, bounds, isOperator, isRange⟩ noNumbers
      · exact admits_pathPlan accepts tokenized id
    · exact admits_pathPlan accepts tokenized id
  · exact admits_pathPlan accepts tokenized id

end QueryTerm

end RecordIndex
