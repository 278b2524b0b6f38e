import RecordIndex.Proofs.Pattern.Done

namespace RecordIndex

/-!
# Definite patterns

A leaf of a pattern is definite when it says something of the leaf of a value.
It never matches what has no leaf, so a record that it matches is indexed where
it looks; and when it ends a scan, no later leaf matches.
-/

namespace Pattern

/-- The pattern asks something of one leaf. -/
inductive Definite : Pattern -> Prop where
  | literal {value : Value} (hasLeaf : value.HasLeaf)
      (isData : forall source flags, value ≠ .regExp source flags) : Definite (.literal value)
  | regex (regex : Regex) : Definite (.regex regex)
  /-- A test that refuses what has no leaf, and that is done with a leaf only
  if no later one matches. -/
  | predicate {test : Value -> Verdict}
      (refuses : forall value, test value = .matched -> value.HasLeaf)
      (ordered : forall first second : Value, first.IsStored -> second.IsStored ->
        first.Precedes second -> test first = .done -> test second ≠ .matched) :
      Definite (.predicate test)
  | lt (bound : Value) : Definite (.operator (.lt bound))
  | lte (bound : Value) : Definite (.operator (.lte bound))
  | gt (bound : Value) : Definite (.operator (.gt bound))
  | gte (bound : Value) : Definite (.operator (.gte bound))
  | between (low high : Value) : Definite (.operator (.between low high))
  | eq {value : Value} (hasLeaf : value.HasLeaf) : Definite (.operator (.eq value))
  | or {patterns : List Pattern} (each : ∀ pattern ∈ patterns, Definite pattern) :
      Definite (.operator (.or patterns))
  | and {patterns : List Pattern} (nonempty : patterns ≠ [])
      (each : ∀ pattern ∈ patterns, Definite pattern) : Definite (.operator (.and patterns))

variable {pattern : Pattern}

/-- Only what has a leaf is matched. -/
theorem Definite.hasLeaf (definite : pattern.Definite) {value : Value}
    (matched : pattern.verdict value = .matched) : value.HasLeaf := by
  induction definite with
  | literal hasLeaf isData =>
      exact (Value.leaf_of_same (Verdict.ofBool_eq_matched.mp matched)).1.mp hasLeaf
  | regex regex =>
      have matched := Verdict.ofBool_eq_matched.mp matched
      cases value with
      | string text => exact ⟨rfl, rfl⟩
      | number n => exact ⟨rfl, rfl⟩
      | bool value => exact ⟨rfl, rfl⟩
      | _ => cases matched
  | predicate refuses ordered => exact refuses value matched
  | lt bound | lte bound =>
      rcases Operator.upper_eq_matched matched with ⟨order, compared, _⟩
      exact Value.hasLeaf_of_compare? compared
  | gt bound | gte bound =>
      rcases Operator.lower_eq_matched matched with ⟨order, compared, _⟩
      exact Value.hasLeaf_of_compare? compared
  | between low high =>
      rcases Operator.upper_eq_matched (Operator.interval_eq_matched matched).2 with
        ⟨order, compared, _⟩
      exact Value.hasLeaf_of_compare? compared
  | eq hasLeaf =>
      exact (Value.leaf_of_same (Verdict.ofBool_eq_matched.mp matched)).1.mpr hasLeaf
  | or each ih =>
      rcases anyVerdict_eq_matched matched with ⟨pattern, member, here⟩
      exact ih pattern member here
  | @and patterns nonempty each ih =>
      rcases List.exists_mem_of_ne_nil patterns nonempty with ⟨pattern, member⟩
      exact ih pattern member (allVerdict_eq_matched matched pattern member)

/-- The predicates of a definite pattern are done in the order of leaves. -/
theorem Definite.ordered (definite : pattern.Definite) {test : Value -> Verdict}
    (consults : pattern.Consults test) : EndsInOrder test := by
  induction definite with
  | predicate refuses ordered =>
      cases consults
      exact ordered
  | or each ih =>
      cases consults with
      | or member consults => exact ih _ member consults
  | and nonempty each ih =>
      cases consults with
      | and member consults => exact ih _ member consults
  | _ => cases consults

/-- Behind a leaf that ends the scan, no leaf matches. -/
theorem Definite.endsInOrder (definite : pattern.Definite) : EndsInOrder pattern.verdict :=
  pattern.endsInOrder fun _ => definite.ordered

end Pattern

end RecordIndex
