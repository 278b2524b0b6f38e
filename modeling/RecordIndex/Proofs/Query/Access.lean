import RecordIndex.Proofs.Query.Entries
import RecordIndex.Proofs.Query.Finding

namespace RecordIndex

/-!
# Ways to the entries of a term

A plan chooses a table and a range of its keys, and the choice is no part of the
question: what a term finds are the entries that satisfy it, wherever they are
looked up.  Only a comparison of numbers passes over entries that satisfy it.
It reads the leaves between two numbers, and where strings are indexed by tokens
every token satisfies it.
-/

namespace KeyRange

/-- No range of numbers reaches as far as the texts. -/
theorem not_admits_ofNumbers (bounds : Bound Number × Bound Number) (content : String)
    (rest : Key) : (ofNumbers bounds).admits ((KeyPart.text content).encode ++ rest) = false := by
  have atEnd (tail later : Key) : compare (5 :: tail : Key) (4 :: later) = .gt :=
    Std.OrientedCmp.gt_of_lt (Key.compare_cons_of_lt (by decide) _ _)
  -- What begins with the tag of numbers ends with this tag, or with the one of texts.
  have behindNumbers (beginning tail : Key) :
      (behind (4 :: beginning)).stopsAfter (5 :: tail) = false := by
    unfold behind Key.prefixEnd?
    cases Key.prefixEnd? beginning with
    | some later => exact congrArg Ordering.isLT (atEnd tail later)
    | none =>
        have reached : (compare ([5] : Key) (5 :: tail)).isLE = true :=
          Key.isLE_compare_singleton (Nat.le_refl _) tail
        change (compare (5 :: tail) [5]).isLT = false
        cases order : compare (5 :: tail : Key) [5] with
        | lt =>
            rw [Std.OrientedCmp.gt_of_lt order] at reached
            cases reached
        | eq => rfl
        | gt => rfl
  have notStopped : (ofNumbers bounds).stop.stopsAfter ((KeyPart.text content).encode ++ rest) =
      false := by
    rcases bounds with ⟨low, high⟩
    cases high with
    | unbounded => exact behindNumbers [] _
    | included high => exact behindNumbers _ _
    | excluded high =>
        exact congrArg Ordering.isLT
          (atEnd ((KeyPart.text content).payload ++ rest) (KeyPart.number high).payload)
  unfold admits
  rw [notStopped, Bool.and_false]

end KeyRange

namespace QueryTerm

variable {term : QueryTerm}

/-- The leaf satisfies the term only because a token always does, and it lies in
no range of numbers. -/
def Overlooks (term : QueryTerm) (tokenized : Bool) (leaf : KeyPart) : Prop :=
  tokenized = true ∧ term.ComparesNumbers ∧ (Value.ofLeafPart leaf).string?.isSome = true

/-- A leaf that passes a comparison with numbers is one of the numbers between
the bounds, unless it passes as a token. -/
theorem number_of_verdict {operator : Operator} {bounds : Bound Number × Bound Number}
    (isRange : operator.numberRange? = some bounds) {tokenized : Bool} {leaf : KeyPart}
    (noName : leaf.isSegment = false) (plain : ¬ Value.SpellsInfinity leaf)
    (matched : (TermLeaf.operator operator).verdict tokenized leaf = .matched)
    (noToken : (tokenized && (Value.ofLeafPart leaf).string?.isSome) = false) :
    ∃ n, leaf = .number n ∧ KeyRange.IsFrom bounds.1 n ∧ KeyRange.IsTo bounds.2 n := by
  change TermLeaf.testStored tokenized operator.verdict leaf = .matched at matched
  unfold TermLeaf.testStored at matched
  dsimp only at matched
  rw [noToken] at matched
  rcases Operator.number_of_matched isRange matched with ⟨n, isRead, isNumber, isFrom, isTo⟩
  exact ⟨n, Value.number_of_ofLeafPart noName plain isRead isNumber, isFrom, isTo⟩

/-- An entry that satisfies the term lies in the range of its plan, unless the
term overlooks its leaf. -/
theorem admits_plan_iff {tokenized : Bool} {entry : IndexEntry}
    (noName : entry.leaf.isSegment = false) (plain : ¬ Value.SpellsInfinity entry.leaf)
    (accepts : term.acceptsPath entry.path = true)
    (matched : term.leaf.verdict tokenized entry.leaf = .matched) :
    (term.plan tokenized).range.admits (entry.key (term.plan tokenized).order) = true ↔
      ¬ term.Overlooks tokenized entry.leaf := by
  by_cases comparesNumbers : term.ComparesNumbers
  · rcases comparesNumbers with ⟨literal, operator, bounds, isOperator, isRange⟩
    rw [isOperator] at matched
    rw [plan_of_numberRange (isNamed_of_isLiteral literal) isOperator isRange]
    change (KeyRange.ofNumbers bounds).admits ((entry.leaf.encode ++ _) ++ _) = true ↔ _
    rw [List.append_assoc]
    cases isToken : tokenized && (Value.ofLeafPart entry.leaf).string?.isSome with
    | true =>
        rcases Bool.and_eq_true_iff.mp isToken with ⟨isTokenized, isString⟩
        rcases Option.isSome_iff_exists.mp isString with ⟨content, isContent⟩
        have isRead : Value.ofLeafPart entry.leaf = .string content := by
          cases read : Value.ofLeafPart entry.leaf with
          | string text =>
              rw [read] at isContent
              exact congrArg Value.string (Option.some.inj isContent)
          | _ =>
              rw [read] at isContent
              cases isContent
        rw [Value.text_of_ofLeafPart noName isRead, KeyRange.not_admits_ofNumbers]
        refine ⟨nofun, fun seen => absurd ?_ seen⟩
        refine ⟨isTokenized, ⟨literal, operator, bounds, isOperator, isRange⟩, ?_⟩
        rw [← Value.text_of_ofLeafPart noName isRead]
        exact isString
    | false =>
        rcases number_of_verdict isRange noName plain matched isToken with ⟨n, isLeaf, isFrom, isTo⟩
        rw [isLeaf]
        refine ⟨?_, fun _ => KeyRange.admits_ofNumbers isFrom isTo _⟩
        rintro _ ⟨_, _, isString⟩
        cases isString
  · exact ⟨fun _ overlooks => comparesNumbers overlooks.2.1,
      fun _ => admits_plan_of_not_comparesNumbers comparesNumbers
        (show term.acceptsPath entry.term.path = true from accepts) matched entry.id⟩

end QueryTerm

namespace TermScan

/-- Over tables that list the same entries, a scan that reads on where a test is
done finds the records of the type that have an entry that satisfies its term.
It reads the table and the range of its plan, and passes over nothing but the
tokens that a comparison with numbers lets through. -/
theorem unstopped_finds_entries {batch : Nat} {store : Store} {entries : IndexEntry -> Prop}
    (positive : 0 < batch) (lists : forall order, store.Lists entries order)
    (plain : forall entry, entries entry -> ¬ Value.SpellsInfinity entry.leaf) (term : QueryTerm)
    (tokenized : Bool) (typeName : Option String) :
    ((forTerm term tokenized).unstopped.outcome batch store typeName).failure = none ∧
      forall id, id ∈ ((forTerm term tokenized).unstopped.outcome batch store typeName).found ↔
        hasType typeName id = true ∧ ∃ entry, entries entry ∧ entry.id = id ∧
          term.acceptsPath entry.path = true ∧
            term.leaf.verdict tokenized entry.leaf = .matched ∧
              ¬ term.Overlooks tokenized entry.leaf := by
  rcases outcome_spec typeName positive (sound_unstopped store term tokenized) with
    ⟨found, unfailing⟩
  refine ⟨unfailing (Store.Lists.readable lists), fun id => ?_⟩
  rw [found, mem_upcoming_unstopped_iff lists]
  refine and_congr_right fun _ => exists_congr fun entry => and_congr_right fun isEntry =>
    and_congr_right fun _ => and_congr_right fun accepts => and_congr_right fun matched => ?_
  exact QueryTerm.admits_plan_iff ((lists .byPath).kept entry isEntry).1 (plain entry isEntry)
    accepts matched

end TermScan

/-! ## Databases -/

namespace Database

variable {database : Database}

/-- The record of the entry is derived the term that the entry keeps. -/
def HasEntry (database : Database) (entry : IndexEntry) : Prop :=
  ∃ term, database.Indexes term entry.id ∧ entry.term = term.keyed

/-- Both indexes of a consistent database list the terms of its records. -/
theorem lists_of_indexesHold (holds : database.IndexesHold) (order : IndexOrder) :
    database.store.Lists database.HasEntry order where
  kept := by
    rintro entry ⟨term, ⟨record, _, member⟩, isTerm⟩
    have isLeaf : entry.leaf = term.leaf.keyed := congrArg Term.leaf isTerm
    refine ⟨?_, ?_⟩
    · rw [isLeaf, KeyPart.isSegment_keyed]
      exact hasLeaf_of_mem_derivedTerms member
    · rw [isLeaf, KeyPart.keyed_keyed]
  keys := by
    intro key
    rw [exists_entry_iff holds]
    constructor
    · rintro ⟨id, record, isRecord, term, member, rfl⟩
      exact ⟨⟨term.path, term.leaf.keyed, id⟩, ⟨term, ⟨record, isRecord, member⟩, rfl⟩,
        Term.key_keyed order term id⟩
    · rintro ⟨entry, ⟨term, ⟨record, isRecord, member⟩, isTerm⟩, rfl⟩
      refine ⟨entry.id, record, isRecord, term, member, ?_⟩
      unfold IndexEntry.key
      rw [isTerm, Term.key_keyed]

/-- The entries of the first record. -/
theorem hasEntry_after_firstPut_iff {entry : IndexEntry} :
    (blank.after firstPut).HasEntry entry ↔
      entry = ⟨["#"], .text "P@1", "P@1"⟩ ∨ entry = ⟨["name"], .text "john", "P@1"⟩ := by
  rcases entry with ⟨path, leaf, id⟩
  constructor
  · rintro ⟨term, ⟨record, isRecord, member⟩, isTerm⟩
    rcases record_after_firstPut_iff.mp isRecord with ⟨rfl, rfl⟩
    rw [derivedTerms_john] at member
    rcases List.mem_cons.mp member with rfl | member
    · cases isTerm
      exact .inl rfl
    · cases List.mem_singleton.mp member
      cases isTerm
      exact .inr rfl
  · rintro (isEntry | isEntry)
    · cases isEntry
      refine ⟨⟨["#"], .text "P@1"⟩, ⟨john, found_firstPut, ?_⟩, rfl⟩
      rw [derivedTerms_john]
      exact .head _
    · cases isEntry
      refine ⟨⟨["name"], .text "john"⟩, ⟨john, found_firstPut, ?_⟩, rfl⟩
      rw [derivedTerms_john]
      exact .tail _ (.head _)

theorem plain_after_firstPut (entry : IndexEntry)
    (isEntry : (blank.after firstPut).HasEntry entry) : ¬ Value.SpellsInfinity entry.leaf := by
  unfold Value.SpellsInfinity
  rcases hasEntry_after_firstPut_iff.mp isEntry with rfl | rfl
  · decide
  · decide

end Database

open Database in
/-- In both tables of a first record, the scan for a name finds the record and
nothing else. -/
theorem TermScan.unstopped_finds_john :
    let scan : TermScan := forTerm ⟨[.name "name"], .exact (.text "john")⟩ false
    let outcome := scan.unstopped.outcome 2 (blank.after firstPut).store (some "P")
    outcome.failure = none ∧ forall id, id ∈ outcome.found ↔ id = "P@1" := by
  intro scan outcome
  have finds := unstopped_finds_entries (Nat.succ_pos 1)
    (lists_of_indexesHold indexesHold_after_firstPut) plain_after_firstPut
    ⟨[.name "name"], .exact (.text "john")⟩ false (some "P")
  refine ⟨finds.1, fun id => (finds.2 id).trans ⟨?_, ?_⟩⟩
  · rintro ⟨_, entry, isEntry, rfl, _⟩
    rcases hasEntry_after_firstPut_iff.mp isEntry with rfl | rfl
    · rfl
    · rfl
  · rintro rfl
    have isTyped : hasType (some "P") "P@1" = true :=
      (Store.isPrefixOf_iff _ _).mpr ⟨['1'], rfl⟩
    exact ⟨isTyped, _, hasEntry_after_firstPut_iff.mpr (.inr rfl), rfl, rfl, rfl, nofun⟩

end RecordIndex
