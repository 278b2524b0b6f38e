import RecordIndex.Proofs.Pattern.Comparing

namespace RecordIndex

/-!
# Done with a value

A scan of one path may end at a value that its test is done with, so that no
match may come behind.  Comparisons see to that by themselves, however they are
put together, and predicates are asked to.
-/

namespace Pattern

/-! ## Combinations -/

theorem anyVerdict_eq_matched {patterns : List Pattern} {value : Value} {allDone : Bool}
    (matched : anyVerdict allDone patterns value = .matched) :
    ∃ pattern ∈ patterns, pattern.verdict value = .matched := by
  induction patterns generalizing allDone with
  | nil =>
      unfold anyVerdict at matched
      split at matched
      all_goals cases matched
  | cons pattern rest ih =>
      unfold anyVerdict at matched
      split at matched
      · rename_i here
        exact ⟨pattern, List.mem_cons_self, here⟩
      all_goals
        rcases ih matched with ⟨later, member, here⟩
        exact ⟨later, List.mem_cons_of_mem _ member, here⟩

/-- A scan ends only where all of them end it. -/
theorem anyVerdict_eq_done {patterns : List Pattern} {value : Value} {allDone : Bool}
    (done : anyVerdict allDone patterns value = .done) :
    allDone = true ∧ ∀ pattern ∈ patterns, pattern.verdict value = .done := by
  induction patterns generalizing allDone with
  | nil =>
      unfold anyVerdict at done
      split at done
      · rename_i all
        exact ⟨all, nofun⟩
      · cases done
  | cons pattern rest ih =>
      unfold anyVerdict at done
      split at done
      · cases done
      · cases (ih done).1
      · rename_i here
        refine ⟨(ih done).1, fun other member => ?_⟩
        rcases List.mem_cons.mp member with rfl | later
        · exact here
        · exact (ih done).2 other later

theorem allVerdict_eq_matched {patterns : List Pattern} {value : Value}
    (matched : allVerdict patterns value = .matched) :
    ∀ pattern ∈ patterns, pattern.verdict value = .matched := by
  induction patterns with
  | nil => exact nofun
  | cons pattern rest ih =>
      unfold allVerdict at matched
      split at matched
      · rename_i here
        intro other member
        rcases List.mem_cons.mp member with rfl | later
        · exact here
        · exact ih matched other later
      · rename_i notHere
        exact absurd matched notHere

/-- A scan ends where one of them ends it. -/
theorem allVerdict_eq_done {patterns : List Pattern} {value : Value}
    (done : allVerdict patterns value = .done) :
    ∃ pattern ∈ patterns, pattern.verdict value = .done := by
  induction patterns with
  | nil => cases done
  | cons pattern rest ih =>
      unfold allVerdict at done
      split at done
      · rcases ih done with ⟨later, member, here⟩
        exact ⟨later, List.mem_cons_of_mem _ member, here⟩
      · exact ⟨pattern, List.mem_cons_self, done⟩

/-! ## The end of a scan -/

/-- The pattern is put together from this predicate, among others. -/
inductive Consults (test : Value -> Verdict) : Pattern -> Prop where
  | predicate : Consults test (.predicate test)
  | or {patterns : List Pattern} {pattern : Pattern} (member : pattern ∈ patterns)
      (consults : Consults test pattern) : Consults test (.operator (.or patterns))
  | and {patterns : List Pattern} {pattern : Pattern} (member : pattern ∈ patterns)
      (consults : Consults test pattern) : Consults test (.operator (.and patterns))

/-- The test is done with a stored value only if it matches none that has a
later leaf. -/
def EndsInOrder (test : Value -> Verdict) : Prop :=
  forall first second : Value, first.IsStored -> second.IsStored -> first.Precedes second ->
    test first = .done -> test second ≠ .matched

variable {first second : Value}

mutual

/-- What is done with a value matches none that is not smaller, if its predicates
do not. -/
theorem ne_matched_of_done (notBehind : first.NotBehind second) : forall pattern : Pattern,
    (forall test, pattern.Consults test -> test first = .done -> test second ≠ .matched) ->
      pattern.verdict first = .done -> pattern.verdict second ≠ .matched
  | .predicate test, inOrder, done => inOrder test .predicate done
  | .operator comparison, inOrder, done =>
      operator_ne_matched_of_done notBehind comparison inOrder done
  | .literal _, _, done | .regex _, _, done | .nested _, _, done =>
      absurd done (Verdict.ofBool_ne_done _)

theorem operator_ne_matched_of_done (notBehind : first.NotBehind second) :
    forall comparison : Operator, (forall test, (Pattern.operator comparison).Consults test ->
      test first = .done -> test second ≠ .matched) ->
        comparison.verdict first = .done -> comparison.verdict second ≠ .matched
  | .lt _, _, done | .lte _, _, done => Operator.upper_ne_matched_of_done rfl rfl notBehind done
  | .gt _, _, done | .gte _, _, done => absurd done Operator.lower_ne_done
  | .eq _, _, done | .neq _, _, done | .not _, _, done => absurd done (Verdict.ofBool_ne_done _)
  | .between _ _, _, done => fun matched =>
      Operator.upper_ne_matched_of_done rfl rfl notBehind (Operator.interval_eq_done done)
        (Operator.interval_eq_matched matched).2
  | .and patterns, inOrder, done => fun matched => by
      rcases allVerdict_eq_done done with ⟨pattern, member, here⟩
      exact each_ne_matched_of_done notBehind patterns
        (fun pattern member test consults => inOrder test (.and member consults)) pattern member
        here (allVerdict_eq_matched matched pattern member)
  | .or patterns, inOrder, done => fun matched => by
      rcases anyVerdict_eq_matched matched with ⟨pattern, member, here⟩
      exact each_ne_matched_of_done notBehind patterns
        (fun pattern member test consults => inOrder test (.or member consults)) pattern member
        ((anyVerdict_eq_done done).2 pattern member) here

theorem each_ne_matched_of_done (notBehind : first.NotBehind second) :
    forall patterns : List Pattern, (∀ pattern ∈ patterns, forall test, pattern.Consults test ->
      test first = .done -> test second ≠ .matched) ->
        ∀ pattern ∈ patterns, pattern.verdict first = .done -> pattern.verdict second ≠ .matched
  | [], _ => nofun
  | pattern :: rest, inOrder => by
      rw [List.forall_mem_cons] at inOrder ⊢
      exact ⟨ne_matched_of_done notBehind pattern inOrder.1,
        each_ne_matched_of_done notBehind rest inOrder.2⟩

end

/-- A pattern is done in the order of leaves if its predicates are. -/
theorem endsInOrder (pattern : Pattern)
    (inOrder : forall test, pattern.Consults test -> EndsInOrder test) :
    EndsInOrder pattern.verdict := by
  intro first second isStored isStored' precedes
  exact pattern.ne_matched_of_done precedes.notBehind
    fun test consults => inOrder test consults first second isStored isStored' precedes

end Pattern

end RecordIndex
