import RecordIndex.Proofs.Pattern.InOrder
import RecordIndex.Proofs.Query.Access

namespace RecordIndex

/-!
# Scans that stop

A scan of one path stops at the first leaf that its test is done with.  Leaves
come in the order of their keys, and comparisons are done with a leaf only if
they match none behind it, however they are put together.  So a scan that stops
has found all that there is to find.
-/

namespace Pattern

/-- The pattern is put together from comparisons, literals and expressions. -/
inductive Compares : Pattern -> Prop where
  | literal (value : Value) : Compares (.literal value)
  | regex (regex : Regex) : Compares (.regex regex)
  | lt (bound : Value) : Compares (.operator (.lt bound))
  | lte (bound : Value) : Compares (.operator (.lte bound))
  | gt (bound : Value) : Compares (.operator (.gt bound))
  | gte (bound : Value) : Compares (.operator (.gte bound))
  | eq (value : Value) : Compares (.operator (.eq value))
  | neq (value : Value) : Compares (.operator (.neq value))
  | between (low high : Value) : Compares (.operator (.between low high))
  | and {patterns : List Pattern} (each : ∀ pattern ∈ patterns, Compares pattern) :
      Compares (.operator (.and patterns))
  | or {patterns : List Pattern} (each : ∀ pattern ∈ patterns, Compares pattern) :
      Compares (.operator (.or patterns))
  | not {pattern : Pattern} (inner : Compares pattern) : Compares (.operator (.not pattern))

/-- No predicate has a say in a comparison. -/
theorem Compares.not_consults {pattern : Pattern} (compares : pattern.Compares)
    (test : Value -> Verdict) : ¬ pattern.Consults test := by
  intro consults
  induction compares with
  | and each ih =>
      cases consults with
      | and member consults => exact ih _ member consults
  | or each ih =>
      cases consults with
      | or member consults => exact ih _ member consults
  | _ => cases consults

/-- What is done with a value matches none that is not smaller. -/
theorem Compares.ne_matched_of_done {pattern : Pattern} (compares : pattern.Compares)
    {first second : Value} (notBehind : first.NotBehind second)
    (done : pattern.verdict first = .done) : pattern.verdict second ≠ .matched :=
  pattern.ne_matched_of_done notBehind
    (fun test consults => absurd consults (compares.not_consults test)) done

end Pattern

/-- Values are read in the order of the leaves, unless a text is read as an
infinite number. -/
theorem Value.notBehind_of_leaves {part part' : KeyPart} (noName : part.isSegment = false)
    (noName' : part'.isSegment = false) (plain : ¬ SpellsInfinity part')
    (notBefore : compare part'.encode part.encode ≠ .lt) :
    (ofLeafPart part).NotBehind (ofLeafPart part') where
  numbers a b isRead isRead' isNumber isNumber' := by
    rw [number_of_ofLeafPart noName' plain isRead' isNumber'] at notBefore
    exact rank_le_of_read noName isRead notBefore
  texts content content' isRead isRead' := by
    rw [text_of_ofLeafPart noName' isRead'] at notBefore
    exact isLE_of_read noName isRead notBefore

namespace TermScan

variable {scan : TermScan} {typeName : Option String}

/-- Where a scan would stop, one that reads on passes. -/
theorem test_unstopped (scan : TermScan) (typeName : Option String) (entry : IndexEntry) :
    scan.unstopped.test typeName entry =
      match scan.test typeName entry with
      | .finished => .passed
      | result => result := by
  have sameTerm : scan.unstopped.term = scan.term := rfl
  have sameStrings : scan.unstopped.tokenized = scan.tokenized := rfl
  have readsOn : scan.unstopped.stopsWhenDone = false := rfl
  unfold test
  rw [sameTerm, sameStrings, readsOn]
  cases scan.term.acceptsPath entry.path with
  | false => rfl
  | true =>
      rw [Bool.not_true, if_neg Bool.false_ne_true, if_neg Bool.false_ne_true]
      cases scan.term.leaf.verdict scan.tokenized entry.leaf with
      | matched =>
          dsimp only
          cases hasType typeName entry.id with
          | true => rfl
          | false => rfl
      | unmatched => rfl
      | done =>
          dsimp only
          cases scan.stopsWhenDone with
          | true => rfl
          | false => rfl

/-- A scan that stops finds the same as one that reads on, if no row behind the
one that finishes it is found. -/
theorem foundIn_unstopped {rows : List (Key × Nat)}
    (inOrder : rows.Pairwise fun row later => forall entry entry' id,
      IndexEntry.ofKey? scan.order row.1 = .ok entry ->
        IndexEntry.ofKey? scan.order later.1 = .ok entry' ->
          scan.test typeName entry = .finished ->
            scan.unstopped.test typeName entry' ≠ .found id) :
    scan.unstopped.foundIn typeName rows = scan.foundIn typeName rows := by
  induction rows with
  | nil => rfl
  | cons row rest ih =>
      rcases List.pairwise_cons.mp inOrder with ⟨here, inOrder⟩
      have ih := ih inOrder
      have sameOrder : scan.unstopped.order = scan.order := rfl
      unfold foundIn
      rw [sameOrder]
      cases isEntry : IndexEntry.ofKey? scan.order row.1 with
      | error cause => rfl
      | ok entry =>
          dsimp only
          rw [test_unstopped]
          cases tested : scan.test typeName entry with
          | found id => exact congrArg (id :: ·) ih
          | passed => exact ih
          | failed cause => rfl
          | finished =>
              refine List.eq_nil_iff_forall_not_mem.mpr fun id found => ?_
              rcases exists_of_mem_foundIn found with ⟨later, isLater, entry', isEntry', isFound⟩
              exact here later isLater entry entry' id isEntry isEntry' tested isFound

/-- Behind an entry of a path that finishes a scan, no entry of the path is
found. -/
theorem test_unstopped_ne_found {operator : Operator}
    (compares : (Pattern.operator operator).Compares)
    (isLeaf : scan.term.leaf = .operator operator) (untokenized : scan.tokenized = false)
    (literal : scan.term.isLiteral = true) {entry entry' : IndexEntry} (isKept : entry.IsKept)
    (isKept' : entry'.IsKept)
    (plain : scan.term.acceptsPath entry'.path = true -> ¬ Value.SpellsInfinity entry'.leaf)
    (before : compare (entry.key .byPath) (entry'.key .byPath) = .lt)
    (finished : scan.test typeName entry = .finished) (id : String) :
    scan.unstopped.test typeName entry' ≠ .found id := by
  intro found
  have isNamed := QueryTerm.isNamed_of_isLiteral literal
  have passes (leaf : KeyPart) : scan.term.leaf.verdict scan.tokenized leaf =
      operator.verdict (Value.ofLeafPart leaf) := by
    rw [isLeaf, untokenized]
    rfl
  rcases done_of_test_eq_finished finished with ⟨_, accepts, done⟩
  rcases test_eq_found_iff.mp found with ⟨accepts', matched, _⟩
  rw [passes] at done
  have matched : operator.verdict (Value.ofLeafPart entry'.leaf) = .matched :=
    (passes entry'.leaf).symm.trans matched
  have samePath := ((QueryTerm.acceptsPath_iff isNamed _).mp accepts).symm.trans
    ((QueryTerm.acceptsPath_iff isNamed _).mp accepts')
  have notBefore : compare entry'.leaf.encode entry.leaf.encode ≠ .lt := by
    unfold IndexEntry.key IndexEntry.term at before
    rw [samePath] at before
    rcases Term.leaf_of_before before with same | less
    · rw [same, Rows.compare_self]
      exact nofun
    · rw [Std.OrientedCmp.gt_of_lt less]
      exact nofun
  exact compares.ne_matched_of_done
    (Value.notBehind_of_leaves isKept.1 isKept'.1 (plain accepts') notBefore) done matched

theorem upcoming_unstopped {store : Store} {entries : IndexEntry -> Prop}
    (lists : store.Lists entries .byPath) {operator : Operator}
    (compares : (Pattern.operator operator).Compares) {term : QueryTerm}
    (isLeaf : term.leaf = .operator operator)
    (plain : forall entry, entries entry -> term.acceptsPath entry.path = true ->
      ¬ Value.SpellsInfinity entry.leaf) :
    (forTerm term false).unstopped.upcoming store typeName =
      (forTerm term false).upcoming store typeName := by
  by_cases stops : (term.plan false).stopsWhenDone = true
  · rcases QueryTerm.of_stops term false stops with ⟨literal, _, isOrder⟩
    refine foundIn_unstopped ((List.Pairwise.filter _ (Table.ascending _)).imp_of_mem ?_)
    intro row later isRow isLater before entry entry' id isEntry isEntry' finished
    have isRow := (List.mem_filter.mp isRow).1
    have isLater := (List.mem_filter.mp isLater).1
    change row ∈ (store.index (term.plan false).order).rows at isRow
    change later ∈ (store.index (term.plan false).order).rows at isLater
    change IndexEntry.ofKey? (term.plan false).order row.1 = _ at isEntry
    change IndexEntry.ofKey? (term.plan false).order later.1 = _ at isEntry'
    rw [isOrder] at isRow isLater isEntry isEntry'
    rcases lists.exists_entry isRow with ⟨_, isThere, isKey, isRead⟩
    cases isRead.symm.trans isEntry
    rcases lists.exists_entry isLater with ⟨_, isThere', isKey', isRead'⟩
    cases isRead'.symm.trans isEntry'
    rw [← isKey, ← isKey'] at before
    exact test_unstopped_ne_found compares isLeaf rfl literal (lists.kept _ isThere)
      (lists.kept _ isThere') (plain _ isThere') before finished id
  · have same : (forTerm term false).unstopped = forTerm term false := by
      unfold unstopped forTerm
      dsimp only
      rw [Bool.eq_false_iff.mpr stops]
    rw [same]

/-- Stopping is sound for comparisons, however they are put together.  Of two
leaves of one path, neither of which is a text that is read as an infinite
number, a later one does not match where the test is done with an earlier one;
so a scan that stops finds what the one that reads on finds. -/
theorem stopping_loses_nothing {operator : Operator}
    (compares : (Pattern.operator operator).Compares) :
    (forall part part' : KeyPart, part.isSegment = false -> part'.isSegment = false ->
      ¬ Value.SpellsInfinity part -> ¬ Value.SpellsInfinity part' ->
        compare part'.encode part.encode ≠ .lt ->
          operator.verdict (Value.ofLeafPart part) = .done ->
            operator.verdict (Value.ofLeafPart part') ≠ .matched) ∧
    forall (batch : Nat) (store : Store) (entries : IndexEntry -> Prop) (term : QueryTerm)
      (typeName : Option String), 0 < batch -> store.Lists entries .byPath ->
        term.leaf = .operator operator ->
          (forall entry, entries entry -> term.acceptsPath entry.path = true ->
            ¬ Value.SpellsInfinity entry.leaf) ->
              ((forTerm term false).outcome batch store typeName).found =
                ((forTerm term false).unstopped.outcome batch store typeName).found := by
  constructor
  · intro part part' noName noName' _ plain notBefore done
    exact compares.ne_matched_of_done
      (Value.notBehind_of_leaves noName noName' plain notBefore) done
  · intro batch store entries term typeName positive lists isLeaf plain
    rw [(outcome_spec typeName positive (sound_forTerm store term false)).1,
      (outcome_spec typeName positive (sound_unstopped store term false)).1]
    exact (upcoming_unstopped lists compares isLeaf plain).symm

open Database in
/-- A scan for people before Abel that have a name is done with John. -/
theorem stopping_loses_nothing_before_abel :
    let operator : Operator :=
      .and [.operator (.lt (.string "abel")), .operator (.not (.literal .null))]
    let scan : TermScan := forTerm ⟨[.name "name"], .operator operator⟩ false
    operator.verdict (Value.ofLeafPart (.text "john")) = .done ∧
      operator.verdict (Value.ofLeafPart (.text "karl")) ≠ .matched ∧
        (scan.outcome 2 (blank.after firstPut).store (some "P")).found =
          (scan.unstopped.outcome 2 (blank.after firstPut).store (some "P")).found := by
  intro operator scan
  have compares : (Pattern.operator operator).Compares := by
    refine .and fun pattern member => ?_
    rcases List.mem_cons.mp member with rfl | member
    · exact .lt _
    · cases List.mem_singleton.mp member
      exact .not (.literal _)
  have done : operator.verdict (Value.ofLeafPart (.text "john")) = .done := rfl
  have notBefore : compare (KeyPart.text "karl").encode (KeyPart.text "john").encode ≠ .lt := by
    have before := KeyPart.compare_text (show compare "john" "karl" = .lt from rfl) [] []
    rw [List.append_nil, List.append_nil] at before
    rw [Std.OrientedCmp.gt_of_lt before]
    exact nofun
  have loses := stopping_loses_nothing compares
  refine ⟨done, loses.1 (.text "john") (.text "karl") rfl rfl ?_ ?_ notBefore done,
    loses.2 2 _ _ _ (some "P") (Nat.succ_pos 1)
      (lists_of_indexesHold indexesHold_after_firstPut .byPath) rfl
      fun entry isEntry _ => plain_after_firstPut entry isEntry⟩
  · unfold Value.SpellsInfinity
    decide
  · unfold Value.SpellsInfinity
    decide

end TermScan

end RecordIndex
