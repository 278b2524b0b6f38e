import RecordIndex.Proofs.Term.Walks
import RecordIndex.Proofs.Value.Shape

namespace RecordIndex

/-!
# Looking up and listing

A child is listed under one name, and it may be looked up by more.  The fields of
an object have no other names, but an item of an array is found by every text that
is read as its position, and so with a sign or with zeros in front as well.  What
is looked up is what is listed wherever no position is misspelled in this way, and
a path leads to the scalar that a walk comes to under the same path wherever it
misspells no position on the way.
-/

namespace Value

/-! ## Children -/

/-- The key finds an item of an array by something else than the position as it is
written. -/
def misspells (key : String) : Value -> Bool
  | .array items => IntegerText.isPadded key && ((Value.array items).get? key).isSome
  | _ => false

/-- What is misspelled is found all the same. -/
theorem exists_of_misspells {value : Value} {key : String}
    (misspelled : value.misspells key = true) : ∃ child, value.get? key = some child := by
  cases value with
  | array items => exact Option.isSome_iff_exists.mp (Bool.and_eq_true_iff.mp misspelled).2
  | _ => cases misspelled

/-- What is listed under a name is what is found by it, unless it is misspelled. -/
theorem mem_children_iff {value child : Value} (wellFormed : value.WellFormed) {key : String} :
    (key, child) ∈ value.children ↔
      value.get? key = some child ∧ value.misspells key = false := by
  constructor
  · intro isChild
    refine ⟨get?_child wellFormed isChild, ?_⟩
    cases value with
    | array items =>
        rcases mem_numbered_iff.mp isChild with ⟨place, _, rfl⟩
        rw [misspells, Nat.zero_add, IntegerText.isPadded_repr, Bool.false_and]
    | _ => rfl
  · rintro ⟨isFound, spelled⟩
    cases value with
    | object fields => exact Rows.mem_of_get? isFound
    | array items =>
        rw [misspells, isFound, Option.isSome_some, Bool.and_true] at spelled
        exact mem_children_of_get? (IntegerText.isCanonical_of_unpadded spelled) isFound
    | _ => cases isFound

/-! ## Paths -/

/-- Some key of the path misspells a position in what the keys before it lead to. -/
def misspellsAlong : List String -> Value -> Bool
  | [], _ => false
  | key :: rest, value => value.misspells key || (value.get? key).any (misspellsAlong rest)

theorem misspellsAlong_cons {value child : Value} {key : String}
    (isChild : value.get? key = some child) (rest : List String) :
    value.misspellsAlong (key :: rest) =
      (value.misspells key || child.misspellsAlong rest) := by
  rw [misspellsAlong, isChild, Option.any_some]

/-- Walks go where paths lead that misspell nothing. -/
theorem leads_iff {value reached : Value} (wellFormed : value.WellFormed) {path : List String} :
    value.Leads path reached ↔
      value.getPath? path = some reached ∧ value.misspellsAlong path = false := by
  induction path generalizing value with
  | nil =>
      constructor
      · intro leads
        cases leads
        exact ⟨rfl, rfl⟩
      · rintro ⟨isHere, _⟩
        cases isHere
        exact .here _
  | cons key rest ih =>
      constructor
      · intro leads
        cases leads with
        | child isChild leads =>
            rcases (mem_children_iff wellFormed).mp isChild with ⟨isFound, spelled⟩
            rcases (ih (wellFormed.child isFound)).mp leads with ⟨isReached, spelledOn⟩
            rw [getPath?_cons isFound, misspellsAlong_cons isFound, spelled, spelledOn]
            exact ⟨isReached, rfl⟩
      · rintro ⟨isReached, spelled⟩
        rcases Option.bind_eq_some_iff.mp isReached with ⟨child, isFound, isReached⟩
        rw [misspellsAlong_cons isFound, Bool.or_eq_false_iff] at spelled
        apply Leads.child ((mem_children_iff wellFormed).mpr ⟨isFound, spelled.1⟩)
        exact (ih (wellFormed.child isFound)).mpr ⟨isReached, spelled.2⟩

/-- The path leads to a scalar, one key after the other. -/
def ReachesScalar (value : Value) (path : List String) (scalar : Value) : Prop :=
  value.getPath? path = some scalar ∧ scalar.isContainer = false

/-- A walk over a value comes to the scalars that are reached by paths that
misspell nothing. -/
theorem mem_scalars_iff_reaches {value scalar : Value} (wellFormed : value.WellFormed)
    {path : List String} : (path, scalar) ∈ value.scalars [] ↔
      value.ReachesScalar path scalar ∧ value.misspellsAlong path = false := by
  rw [ReachesScalar, and_right_comm, ← leads_iff wellFormed, mem_scalars_iff]
  constructor
  · rintro ⟨names, isPath, leads, isScalar⟩
    have isPath : path = names := isPath
    exact ⟨isPath ▸ leads, isScalar⟩
  · rintro ⟨leads, isScalar⟩
    exact ⟨path, rfl, leads, isScalar⟩

/-! ## Agreement -/

/-- What is found by the key is what is listed under it. -/
def FindsListed (value : Value) (key : String) : Prop :=
  forall child, value.get? key = some child ↔ (key, child) ∈ value.children

theorem findsListed_iff {value : Value} (wellFormed : value.WellFormed) {key : String} :
    value.FindsListed key ↔ value.misspells key = false := by
  constructor
  · intro findsListed
    apply Bool.eq_false_iff.mpr
    intro misspelled
    rcases exists_of_misspells misspelled with ⟨child, isFound⟩
    have spelled := ((mem_children_iff wellFormed).mp ((findsListed child).mp isFound)).2
    rw [misspelled] at spelled
    cases spelled
  · intro spelled child
    rw [mem_children_iff wellFormed]
    exact (and_iff_left spelled).symm

/-- The scalar that the path leads to is the one that a walk over the whole value
comes to under the path. -/
def ReachesVisited (value : Value) (path : List String) : Prop :=
  forall scalar, value.ReachesScalar path scalar ↔ (path, scalar) ∈ value.scalars []

theorem reachesVisited_iff {value : Value} (wellFormed : value.WellFormed) {path : List String} :
    value.ReachesVisited path ↔
      ∀ scalar, value.ReachesScalar path scalar -> value.misspellsAlong path = false := by
  apply forall_congr'
  intro scalar
  rw [mem_scalars_iff_reaches wellFormed]
  exact iff_self_and

/-- A key finds what is listed under it exactly if it misspells no position, and a
path leads to the scalar that is visited under it exactly if it leads to none or
misspells no position on the way.  The visits are those that every deriver takes
the terms of a record from. -/
theorem lookup_agrees_iff {value : Value} (wellFormed : value.WellFormed) :
    (∀ key, value.FindsListed key ↔ value.misspells key = false) ∧
      (∀ path, value.ReachesVisited path ↔
        ∀ scalar, value.ReachesScalar path scalar -> value.misspellsAlong path = false) ∧
      ∀ deriver : Deriver, deriver.recordTerms value =
        (value.scalars []).flatMap fun visit => deriver.leafTerms visit.1 visit.2 := by
  refine ⟨fun key => ?_, fun path => ?_, fun deriver => ?_⟩
  · exact findsListed_iff wellFormed
  · exact reachesVisited_iff wellFormed
  · exact deriver.recordTerms_eq_flatMap value

/-! ## Two tags -/

def twoTags : Value :=
  .array [.string "a", .string "b"]

def tagged : Value :=
  .object [("tags", twoTags)]

theorem wellFormed_twoTags : twoTags.WellFormed :=
  ⟨by decide, trivial, trivial, trivial⟩

theorem wellFormed_tagged : tagged.WellFormed :=
  wellFormed_object_iff.mpr
    ⟨List.pairwise_singleton _ _, List.forall_mem_singleton.mpr wellFormed_twoTags⟩

/-- The second tag is where its position says. -/
theorem lookup_agrees_tagged :
    twoTags.WellFormed ∧ twoTags.FindsListed "1" ∧
      tagged.WellFormed ∧ tagged.ReachesVisited ["tags", "1"] :=
  ⟨wellFormed_twoTags, ((lookup_agrees_iff wellFormed_twoTags).1 "1").mpr rfl,
    wellFormed_tagged, ((lookup_agrees_iff wellFormed_tagged).2.1 ["tags", "1"]).mpr fun _ _ => rfl⟩

/-- It is also found with a zero in front of the position, where nothing is listed. -/
theorem not_lookup_agrees_padded :
    twoTags.WellFormed ∧ ¬ twoTags.FindsListed "01" ∧
      tagged.WellFormed ∧ ¬ tagged.ReachesVisited ["tags", "01"] := by
  refine ⟨wellFormed_twoTags, fun findsListed => ?_, wellFormed_tagged, fun reachesVisited => ?_⟩
  · cases (findsListed_iff wellFormed_twoTags).mp findsListed
  · have isReached : tagged.ReachesScalar ["tags", "01"] (.string "b") := ⟨rfl, rfl⟩
    cases (reachesVisited_iff wellFormed_tagged).mp reachesVisited _ isReached

end Value

end RecordIndex
