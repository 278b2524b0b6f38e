import RecordIndex.Proofs.Projection.Selecting

namespace RecordIndex

/-!
# Selecting once more

A projection that only copies, without taking strings apart or applying functions,
keeps all of what it has kept.  A field that has kept nothing of a child may well
keep something of what another field has left of it, but then it keeps all that is
left.
-/

namespace Projection

/-- The value as it is, if anything. -/
def isCopy : Projection -> Bool
  | .all | .literal _ => true
  | _ => false

/-- Whatever is kept is kept as it is. -/
def onlyCopies (projection : Projection) : Bool :=
  projection.consistsOf isCopy

/-- What a form that is nowhere nested has, the projection has throughout. -/
theorem consistsOf_mono {allowed allowed' : Projection -> Bool}
    (mono : forall form, allowed form = true -> allowed' form = true) (projection : Projection) :
    projection.consistsOf allowed = true -> projection.consistsOf allowed' = true := by
  suffices fromFields : FromFields fun projection =>
      projection.consistsOf allowed = true -> projection.consistsOf allowed' = true from
    fromFields.holds projection
  intro projection ih isAllowed
  cases projection with
  | nested fields =>
      have areAllowed := fieldsConsistOf_iff.mp isAllowed
      exact fieldsConsistOf_iff.mpr fun field isField => ih field isField (areAllowed field isField)
  | _ => exact mono _ isAllowed

theorem isFunctionFree_of_onlyCopies {projection : Projection}
    (copies : projection.onlyCopies = true) : projection.isFunctionFree = true := by
  refine consistsOf_mono (fun form isCopy => ?_) projection copies
  cases form with
  | function apply => cases isCopy
  | _ => rfl

/-! ## One field -/

theorem select_literal (expected value : Value) :
    (literal expected).select value = if expected == value then some value else none :=
  rfl

/-- All of a scalar is kept, or nothing. -/
theorem eq_of_select_scalar {projection : Projection} (copies : projection.onlyCopies = true)
    {child kept : Value} (scalar : child.isContainer = false)
    (selected : projection.select child = some kept) : kept = child := by
  cases projection with
  | all => exact (Option.some.inj selected).symm
  | literal expected =>
      rw [select_literal] at selected
      split at selected
      · exact (Option.some.inj selected).symm
      · cases selected
  | regex expression => cases copies
  | function apply => cases copies
  | nested fields =>
      rw [select_scalar fields scalar] at selected
      cases selected

/-- A field that has kept nothing of a child keeps nothing or everything of what is
left of it. -/
theorem select_of_select_eq_none {projection other : Projection}
    (copies : projection.onlyCopies = true) (copies' : other.onlyCopies = true)
    {child left : Value} (isLeft : other.select child = some left)
    (omitted : projection.select child = none) :
    projection.select left = none ∨ projection.select left = some left := by
  cases projection with
  | all => cases omitted
  | literal expected =>
      rw [select_literal]
      by_cases isExpected : (expected == left) = true
      · exact .inr (if_pos isExpected)
      · exact .inl (if_neg isExpected)
  | regex expression => cases copies
  | function apply => cases copies
  | nested fields =>
      -- only of a scalar is nothing kept, and a scalar is left as it was
      have scalar : child.isContainer = false := by
        cases child with
        | array items => cases omitted
        | object properties => cases omitted
        | _ => rfl
      rw [eq_of_select_scalar copies' scalar isLeft]
      exact .inl omitted

/-! ## All fields -/

section

variable {chooses : PatternKey -> Bool} {fields : List (PatternKey × Projection)}

/-- Fields that have kept nothing of a child keep nothing or everything of what
another field has left of it. -/
theorem lastKept_of_eq_none (copies : ∀ field ∈ fields, field.2.onlyCopies = true)
    {other : Projection} (copies' : other.onlyCopies = true) {child left : Value}
    (isLeft : other.select child = some left) (omitted : lastKept chooses fields child = none) :
    lastKept chooses fields left = none ∨ lastKept chooses fields left = some left := by
  induction fields with
  | nil => exact .inl rfl
  | cons field rest ih =>
      rcases List.forall_mem_cons.mp copies with ⟨here, later⟩
      rw [lastKept_cons, Option.or_eq_none_iff] at omitted
      rw [lastKept_cons]
      rcases ih later omitted.1 with isNone | isSome
      · rw [isNone, Option.none_or]
        split
        · rename_i chosen
          rw [if_pos chosen] at omitted
          exact select_of_select_eq_none here copies' isLeft omitted.2
        · exact .inl rfl
      · rw [isSome, Option.some_or]
        exact .inr rfl

/-- If each field keeps all of what it has left of a child, then the last that counts
keeps all of what it has left. -/
theorem lastKept_again (copies : ∀ field ∈ fields, field.2.onlyCopies = true)
    {child left : Value} (again : ∀ field ∈ fields, field.2.select child = some left ->
      field.2.select left = some left)
    (isLeft : lastKept chooses fields child = some left) :
    lastKept chooses fields left = some left := by
  induction fields with
  | nil => cases isLeft
  | cons field rest ih =>
      rcases List.forall_mem_cons.mp copies with ⟨copiesHere, copiesLater⟩
      rcases List.forall_mem_cons.mp again with ⟨againHere, againLater⟩
      rw [lastKept_cons] at isLeft ⊢
      cases isLater : lastKept chooses rest child with
      | some last =>
          rw [isLater, Option.some_or] at isLeft
          rw [ih copiesLater againLater (isLater.trans isLeft), Option.some_or]
      | none =>
          rw [isLater, Option.none_or] at isLeft
          split at isLeft
          · rename_i chosen
            rw [if_pos chosen, againHere isLeft]
            rcases lastKept_of_eq_none copiesLater copiesHere isLeft isLater with isNone | isSome
            · rw [isNone, Option.none_or]
            · rw [isSome, Option.some_or]
          · cases isLeft

/-- Nothing but undefined is kept of an undefined item. -/
theorem eq_of_lastKept_undefined (copies : ∀ field ∈ fields, field.2.onlyCopies = true)
    {left : Value} (isLeft : lastKept chooses fields .undefined = some left) :
    left = .undefined := by
  rcases exists_of_lastKept isLeft with ⟨field, isField, selected⟩
  exact eq_of_select_scalar (copies field isField) rfl selected

end

/-- What fills an array also fills it when each item is kept again, and the undefined
ones in between are kept as such or omitted. -/
theorem IsFilled.again {items : List Value} {kept : Nat -> Option Value}
    (filled : IsFilled items kept) {select : Nat -> Value -> Option Value}
    (again : forall place item, kept place = some item -> select place item = some item)
    (between : forall place item, select place .undefined = some item -> item = .undefined) :
    IsFilled items fun place => items[place]?.bind (select place) where
  reaches := by
    intro place
    rw [filled.reaches]
    constructor
    · rintro ⟨later, notBefore, isKept⟩
      rcases Option.isSome_iff_exists.mp isKept with ⟨item, isKept⟩
      have inside := (filled.reaches later).mpr ⟨later, Nat.le_refl later, by simp [isKept]⟩
      have isItem := filled.holds later _ (List.getElem?_eq_getElem inside)
      rw [isKept, Option.getD_some] at isItem
      refine ⟨later, notBefore, ?_⟩
      rw [List.getElem?_eq_getElem inside, Option.bind_some, isItem, again later item isKept]
      rfl
    · rintro ⟨later, notBefore, isKept⟩
      rcases Option.isSome_iff_exists.mp isKept with ⟨found, isFound⟩
      rcases Option.bind_eq_some_iff.mp isFound with ⟨item, isItem, _⟩
      rcases (filled.reaches later).mp (List.getElem?_eq_some_iff.mp isItem).1 with
        ⟨last, notBefore', isLast⟩
      exact ⟨last, Nat.le_trans notBefore notBefore', isLast⟩
  holds := by
    intro place item isItem
    have isHeld := filled.holds place item isItem
    rw [isItem, Option.bind_some]
    cases isKept : kept place with
    | some found =>
        rw [isKept, Option.getD_some] at isHeld
        subst isHeld
        rw [again place item isKept, Option.getD_some]
    | none =>
        rw [isKept, Option.getD_none] at isHeld
        subst isHeld
        cases isFound : select place .undefined with
        | none => rfl
        | some found => exact (between place found isFound).symm

/-- A filled array is no longer than the array that it is filled from. -/
theorem IsFilled.length_le {items kept : List Value} {select : Nat -> Value -> Option Value}
    (filled : IsFilled kept fun place => items[place]?.bind (select place)) :
    kept.length ≤ items.length := by
  apply Nat.le_of_not_lt
  intro longer
  rcases (filled.reaches items.length).mp longer with ⟨later, notBefore, isKept⟩
  rw [List.getElem?_eq_none notBefore] at isKept
  cases isKept

/-! ## All of a value -/

/-- What is kept of a well-formed value is well-formed, and all of it is kept again. -/
theorem select_again {projection : Projection} (copies : projection.onlyCopies = true)
    {value kept : Value} (wellFormed : value.WellFormed)
    (selected : projection.select value = some kept) :
    kept.WellFormed ∧ projection.select kept = some kept := by
  suffices fromFields : FromFields fun projection => projection.onlyCopies = true ->
      forall value kept : Value, value.WellFormed -> projection.select value = some kept ->
        kept.WellFormed ∧ projection.select kept = some kept from
    fromFields.holds projection copies value kept wellFormed selected
  intro projection ih copies value kept wellFormed selected
  cases projection with
  | all => exact (Option.some.inj selected) ▸ ⟨wellFormed, rfl⟩
  | literal expected =>
      rw [select_literal] at selected
      split at selected
      · rename_i isExpected
        cases selected
        exact ⟨wellFormed, if_pos isExpected⟩
      · cases selected
  | regex expression => cases copies
  | function apply => cases copies
  | nested fields =>
      have free := isFunctionFree_of_onlyCopies copies
      have copies := fieldsConsistOf_iff.mp copies
      have each {chooses : PatternKey -> Bool} {child left : Value}
          (wellFormed : child.WellFormed) (isLeft : lastKept chooses fields child = some left) :
          left.WellFormed ∧ lastKept chooses fields left = some left := by
        constructor
        · rcases exists_of_lastKept isLeft with ⟨field, isField, selected⟩
          exact (ih field isField (copies field isField) child left wellFormed selected).1
        · apply lastKept_again copies _ isLeft
          intro field isField selected
          exact (ih field isField (copies field isField) child left wellFormed selected).2
      cases value with
      | object properties =>
          rcases Value.wellFormed_object_iff.mp wellFormed with ⟨ascending, children⟩
          rcases select_object free ascending with ⟨first, isFirst, ascending', held⟩
          cases isFirst.symm.trans selected
          rcases select_object free ascending' with ⟨second, isSecond, ascending'', heldAgain⟩
          have eachField {name : String} {left : Value} (isLeft : Rows.get? name first = some left) :
              left.WellFormed ∧
                lastKept (fun key => key.accepts name) fields left = some left := by
            rw [held] at isLeft
            rcases Option.bind_eq_some_iff.mp isLeft with ⟨child, isChild, isLeft⟩
            exact each (children _ (Rows.mem_of_get? isChild)) isLeft
          have same : second = first := by
            refine Rows.eq_of_get?_eq ascending'' ascending' fun name => ?_
            rw [heldAgain]
            cases isLeft : Rows.get? name first with
            | none => rfl
            | some left => exact (eachField isLeft).2
          refine ⟨Value.wellFormed_object_iff.mpr ⟨ascending', fun field isField => ?_⟩,
            same ▸ isSecond⟩
          exact (eachField ((Rows.get?_eq_some_iff ascending').mpr isField)).1
      | array items =>
          rcases Value.wellFormed_array_iff.mp wellFormed with ⟨counted, children⟩
          rcases select_array free counted with ⟨first, isFirst, filled⟩
          cases isFirst.symm.trans selected
          have counted' := Nat.le_trans filled.length_le counted
          rcases select_array free counted' with ⟨second, isSecond, filledAgain⟩
          have eachItem {place : Nat} {left : Value}
              (isLeft : items[place]?.bind
                (lastKept (fun key => key.choosesItem place) fields) = some left) :
              left.WellFormed ∧
                lastKept (fun key => key.choosesItem place) fields left = some left := by
            rcases Option.bind_eq_some_iff.mp isLeft with ⟨child, isChild, isLeft⟩
            exact each (children child (List.mem_of_getElem? isChild)) isLeft
          have same : second = first :=
            filledAgain.unique (filled.again (fun place left isLeft => (eachItem isLeft).2)
              fun place left => eq_of_lastKept_undefined copies)
          refine ⟨Value.wellFormed_array_iff.mpr ⟨counted', fun item isItem => ?_⟩,
            same ▸ isSecond⟩
          rcases List.getElem?_of_mem isItem with ⟨place, isItem⟩
          have isHeld := filled.holds place item isItem
          cases isLeft : items[place]?.bind
              (lastKept (fun key => key.choosesItem place) fields) with
          | some left =>
              rw [isLeft, Option.getD_some] at isHeld
              exact isHeld ▸ (eachItem isLeft).1
          | none =>
              rw [isLeft, Option.getD_none] at isHeld
              exact isHeld ▸ trivial
      | _ => cases selected

/-- What fields keep of a value: of each child of a container, what the last of them
keeps that chooses it and keeps something; of any other value nothing. -/
def KeepsLast (fields : List (PatternKey × Projection)) (selected : Option Value) :
    Value -> Prop
  | .object properties => ∃ kept, selected = some (.object kept) ∧ Rows.Ascending kept ∧
      forall name, Rows.get? name kept =
        (Rows.get? name properties).bind (lastKept (fun key => key.accepts name) fields)
  | .array items => ∃ kept, selected = some (.array kept) ∧ IsFilled kept fun place =>
      items[place]?.bind (lastKept (fun key => key.choosesItem place) fields)
  | _ => selected = none

/-- Without functions, the fields of a nested projection keep of each child what the
last of them keeps; and a projection that only copies keeps all of what it has kept. -/
theorem keeps_last_and_again {value : Value} (wellFormed : value.WellFormed) :
    (forall fields, (nested fields).isFunctionFree = true ->
      KeepsLast fields ((nested fields).select value) value) ∧
    (forall projection : Projection, projection.onlyCopies = true ->
      forall kept, projection.select value = some kept ->
        projection.select kept = some kept) := by
  constructor
  · intro fields free
    cases value with
    | object properties => exact select_object free (Value.wellFormed_object_iff.mp wellFormed).1
    | array items => exact select_array free (Value.wellFormed_array_iff.mp wellFormed).1
    | _ => exact select_scalar fields rfl
  · exact fun projection copies kept selected => (select_again copies wellFormed selected).2

def threeTags : Value :=
  .array [.string "a", .string "b", .string "c"]

/-- The second tag, under two spellings of its position, and the third if it is
another one. -/
def secondTag : List (PatternKey × Projection) :=
  [(.name "2", .literal (.string "d")), (.name "+1", .all), (.name "1", .literal (.string "c"))]

/-- The second tag keeps its place, and is kept again. -/
theorem keeps_last_and_again_tags :
    threeTags.WellFormed ∧ (nested secondTag).isFunctionFree = true ∧
    KeepsLast secondTag ((nested secondTag).select threeTags) threeTags ∧
    (nested secondTag).onlyCopies = true ∧
    (nested secondTag).select threeTags = some (.array [.undefined, .string "b"]) ∧
    (nested secondTag).select (.array [.undefined, .string "b"]) =
      some (.array [.undefined, .string "b"]) := by
  have wellFormed : threeTags.WellFormed := by
    simp [threeTags, Value.wellFormed_array_iff, Value.WellFormed]
  have selected : (nested secondTag).select threeTags =
      some (.array [.undefined, .string "b"]) := rfl
  have both := keeps_last_and_again wellFormed
  exact ⟨wellFormed, rfl, both.1 secondTag rfl, rfl, selected,
    both.2 (nested secondTag) rfl _ selected⟩

end Projection

end RecordIndex
