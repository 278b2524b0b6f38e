import RecordIndex.Proofs.Projection.Assembling
import RecordIndex.Proofs.Value.Shape

namespace RecordIndex

/-!
# What a projection selects

Without functions, what a projection keeps of a value does not depend on where
the value stands.  A nested projection then keeps a child of an object or an array
if one of its fields chooses the child and keeps something of it, and of several
such fields the last one counts.
-/

/-- The key chooses the item at a position. -/
def PatternKey.choosesItem (key : PatternKey) (place : Nat) : Bool :=
  match key with
  | .name text => IntegerText.natural? text == some place
  | .dynamic regex => regex.isMatch (Nat.repr place)

namespace Projection

/-! ## Forms of projections -/

mutual

/-- Whatever is not nested, at any depth, has one of the allowed forms. -/
def consistsOf (allowed : Projection -> Bool) : Projection -> Bool
  | .nested fields => fieldsConsistOf allowed fields
  | form => allowed form
termination_by structural projection => projection

def fieldsConsistOf (allowed : Projection -> Bool) : List (PatternKey × Projection) -> Bool
  | [] => true
  | (_, projection) :: rest => consistsOf allowed projection && fieldsConsistOf allowed rest
termination_by structural fields => fields

end

/-- No function is applied anywhere. -/
def isFunctionFree (projection : Projection) : Bool :=
  projection.consistsOf fun form => !form.isFunction

theorem fieldsConsistOf_iff {allowed : Projection -> Bool}
    {fields : List (PatternKey × Projection)} :
    fieldsConsistOf allowed fields = true ↔
      ∀ field ∈ fields, field.2.consistsOf allowed = true := by
  induction fields with
  | nil => simp [fieldsConsistOf]
  | cons field rest ih => simp [fieldsConsistOf, ih]

theorem isFunction_of_isFunctionFree {projection : Projection}
    (free : projection.isFunctionFree = true) : projection.isFunction = false := by
  cases projection with
  | function apply => cases free
  | _ => rfl

/-- The fields of a nested projection. -/
def fields : Projection -> List (PatternKey × Projection)
  | .nested fields => fields
  | _ => []

/-- What holds of a projection if it holds of those of its fields. -/
def FromFields (motive : Projection -> Prop) : Prop :=
  forall projection : Projection, (∀ field ∈ projection.fields, motive field.2) ->
    motive projection

mutual

/-- What goes from the fields to the projection holds of every projection. -/
theorem FromFields.holds {motive : Projection -> Prop} (fromFields : FromFields motive) :
    forall projection : Projection, motive projection
  | .nested fields => fromFields _ (fromFields.each fields)
  | .all | .literal _ | .regex _ | .function _ => fromFields _ (List.forall_mem_nil _)

theorem FromFields.each {motive : Projection -> Prop} (fromFields : FromFields motive) :
    forall fields : List (PatternKey × Projection), ∀ field ∈ fields, motive field.2
  | [] => List.forall_mem_nil _
  | (key, projection) :: rest => by
      rw [List.forall_mem_cons]
      exact ⟨fromFields.holds projection, fromFields.each rest⟩

end

/-! ## Without functions -/

/-- What each field keeps of the children that it chooses. -/
def keptEntries (fields : List (PatternKey × Projection)) (value : Value) :
    List (String × Value) :=
  fields.flatMap fun field => (chosenChildren field.1 false value).filterMap fun (name, child) =>
    (field.2.select child).map fun kept => (name, kept)

theorem selectFields_eq {fields : List (PatternKey × Projection)}
    (free : ∀ field ∈ fields, field.2.isFunctionFree = true)
    (anywhere : ∀ field ∈ fields, forall child context,
      field.2.selectAt child context = field.2.select child) (value root : Value) :
    selectFields fields value root = keptEntries fields value := by
  induction fields with
  | nil => rfl
  | cons field rest ih =>
      rcases List.forall_mem_cons.mp free with ⟨freeHere, freeLater⟩
      rcases List.forall_mem_cons.mp anywhere with ⟨here, later⟩
      simp only [selectFields, keptEntries, List.flatMap_cons,
        isFunction_of_isFunctionFree freeHere, here]
      exact congrArg _ (ih freeLater later)

/-- Where a value stands does not matter. -/
theorem selectAt_eq_select {projection : Projection} (free : projection.isFunctionFree = true)
    (value : Value) (context : ProjectionContext) :
    projection.selectAt value context = projection.select value := by
  suffices fromFields : FromFields fun projection => projection.isFunctionFree = true ->
      forall value context, projection.selectAt value context = projection.select value from
    fromFields.holds projection free value context
  intro projection ih free value context
  cases projection with
  | nested fields =>
      have free := fieldsConsistOf_iff.mp free
      have anywhere : ∀ field ∈ fields, forall child context,
          field.2.selectAt child context = field.2.select child :=
        fun field isField => ih field isField (free field isField)
      change assemble value (selectFields fields value context.root) =
        assemble value (selectFields fields value value)
      rw [selectFields_eq free anywhere, selectFields_eq free anywhere]
  | function apply => cases free
  | _ => rfl

/-- A nested projection assembles what its fields keep. -/
theorem select_nested {fields : List (PatternKey × Projection)}
    (free : (nested fields).isFunctionFree = true) (value : Value) :
    (nested fields).select value = assemble value (keptEntries fields value) := by
  have free := fieldsConsistOf_iff.mp free
  change assemble value (selectFields fields value value) = _
  rw [selectFields_eq free fun field isField => selectAt_eq_select (free field isField)]

/-! ## The last field that keeps a child -/

/-- What the last of the fields keeps of a child that choose it and keep
something of it. -/
def lastKept (chooses : PatternKey -> Bool) (fields : List (PatternKey × Projection))
    (child : Value) : Option Value :=
  fields.reverse.findSome? fun field =>
    if chooses field.1 then field.2.select child else none

theorem lastKept_cons (chooses : PatternKey -> Bool) (field : PatternKey × Projection)
    (rest : List (PatternKey × Projection)) (child : Value) :
    lastKept chooses (field :: rest) child = (lastKept chooses rest child).or
      (if chooses field.1 then field.2.select child else none) := by
  simp [lastKept, List.findSome?_append]

theorem exists_of_lastKept {chooses : PatternKey -> Bool}
    {fields : List (PatternKey × Projection)} {child kept : Value}
    (isKept : lastKept chooses fields child = some kept) :
    ∃ field ∈ fields, field.2.select child = some kept := by
  rcases List.exists_of_findSome?_eq_some isKept with ⟨field, isField, selected⟩
  split at selected
  · exact ⟨field, List.mem_reverse.mp isField, selected⟩
  · cases selected

section

variable {Place : Type} [DecidableEq Place]

/-- The child at a place, if there is one, and the keys that choose it. -/
structure StandsAt (placeOf : String -> Option Place) (place : Place) (value : Value)
    (chooses : PatternKey -> Bool) (child : Option Value) : Prop where
  chosen : forall key, ∀ entry ∈ chosenChildren key false value,
    placeOf entry.1 = some place -> chooses key = true ∧ child = some entry.2
  listed : forall key found, chooses key = true -> child = some found ->
    ∃ name, (name, found) ∈ chosenChildren key false value ∧ placeOf name = some place

variable {placeOf : String -> Option Place} {place : Place} {value : Value}
  {chooses : PatternKey -> Bool} {child : Option Value}

/-- What one field keeps at a place. -/
theorem StandsAt.lastAt_field (stands : StandsAt placeOf place value chooses child)
    (key : PatternKey) (select : Value -> Option Value) :
    lastAt placeOf place ((chosenChildren key false value).filterMap fun (name, child) =>
        (select child).map fun kept => (name, kept)) =
      child.bind fun child => if chooses key then select child else none := by
  have isEntry {entry : String × Value}
      (member : entry ∈ (chosenChildren key false value).filterMap fun (name, child) =>
        (select child).map fun kept => (name, kept)) (isPlace : placeOf entry.1 = some place) :
      chooses key = true ∧ ∃ found, child = some found ∧ select found = some entry.2 := by
    rcases List.mem_filterMap.mp member with ⟨⟨name, found⟩, isChosen, selected⟩
    rcases Option.map_eq_some_iff.mp selected with ⟨kept, isKept, rfl⟩
    rcases stands.chosen key _ isChosen isPlace with ⟨choosesIt, isChild⟩
    exact ⟨choosesIt, found, isChild, isKept⟩
  cases isResult : child.bind fun child => if chooses key then select child else none with
  | none =>
      apply lastAt_eq_none
      intro entry member isPlace
      rcases isEntry member isPlace with ⟨choosesIt, found, rfl, isKept⟩
      simp [choosesIt, isKept] at isResult
  | some kept =>
      rcases Option.bind_eq_some_iff.mp isResult with ⟨found, isChild, isKept⟩
      split at isKept
      · rename_i choosesIt
        rcases stands.listed key found choosesIt isChild with ⟨name, isChosen, isPlace⟩
        apply lastAt_eq_some
        · refine ⟨name, List.mem_filterMap.mpr ⟨(name, found), isChosen, ?_⟩, isPlace⟩
          simp [isKept]
        · intro entry member isPlace
          rcases isEntry member isPlace with ⟨_, found', isChild', isKept'⟩
          rw [isChild] at isChild'
          cases isChild'
          exact Option.some.inj (isKept'.symm.trans isKept)
      · cases isKept

/-- At a place, the last field counts that chooses the child and keeps something
of it. -/
theorem StandsAt.lastAt_keptEntries (stands : StandsAt placeOf place value chooses child)
    (fields : List (PatternKey × Projection)) :
    lastAt placeOf place (keptEntries fields value) = child.bind (lastKept chooses fields) := by
  induction fields with
  | nil =>
      cases child with
      | none => rfl
      | some child => rfl
  | cons field rest ih =>
      have later : keptEntries (field :: rest) value =
          ((chosenChildren field.1 false value).filterMap fun (name, child) =>
            (field.2.select child).map fun kept => (name, kept)) ++ keptEntries rest value :=
        List.flatMap_cons
      rw [later, lastAt_append, ih, stands.lastAt_field field.1 field.2.select]
      cases child with
      | none => rfl
      | some child => exact (lastKept_cons chooses field rest child).symm

end

/-! ## Children of containers -/

theorem standsAt_field {properties : List (String × Value)}
    (ascending : Rows.Ascending properties) (name : String) :
    StandsAt some name (.object properties) (fun key => key.accepts name)
      (Rows.get? name properties) where
  chosen := by
    intro key entry isChosen isPlace
    rcases entry with ⟨own, found⟩
    cases isPlace
    cases key with
    | name text =>
        cases isChild : (Value.object properties).get? text with
        | none => simp [chosenChildren, isChild] at isChosen
        | some child =>
            simp only [chosenChildren, isChild, List.mem_singleton, Prod.mk.injEq] at isChosen
            rcases isChosen with ⟨rfl, rfl⟩
            exact ⟨beq_self_eq_true _, isChild⟩
    | dynamic regex =>
        rcases List.mem_filter.mp isChosen with ⟨isField, accepts⟩
        exact ⟨accepts, (Rows.get?_eq_some_iff ascending).mpr isField⟩
  listed := by
    intro key found accepts isChild
    refine ⟨name, ?_, rfl⟩
    cases key with
    | name text =>
        have same : text = name := eq_of_beq accepts
        have isField : (Value.object properties).get? name = some found := isChild
        simp [chosenChildren, isField, same]
    | dynamic regex => exact List.mem_filter.mpr ⟨Rows.mem_of_get? isChild, accepts⟩

theorem standsAt_item {items : List Value} (counted : items.length ≤ 0x10000000000000000)
    (place : Nat) :
    StandsAt IntegerText.natural? place (.array items) (fun key => key.choosesItem place)
      items[place]? where
  chosen := by
    intro key entry isChosen isPlace
    rcases entry with ⟨own, found⟩
    cases key with
    | name text =>
        cases isChild : (Value.array items).get? text with
        | none => simp [chosenChildren, isChild] at isChosen
        | some child =>
            simp only [chosenChildren, isChild, List.mem_singleton, Prod.mk.injEq] at isChosen
            rcases isChosen with ⟨rfl, rfl⟩
            have isPlace : IntegerText.natural? own = some place := isPlace
            refine ⟨by simp [PatternKey.choosesItem, isPlace], ?_⟩
            rw [Value.get?, isPlace] at isChild
            exact isChild
    | dynamic regex =>
        rcases List.mem_filter.mp isChosen with ⟨isListed, accepts⟩
        rcases Value.mem_numbered_iff.mp isListed with ⟨index, isItem, rfl⟩
        have small := Nat.lt_of_lt_of_le (List.getElem?_eq_some_iff.mp isItem).1 counted
        have isPlace : IntegerText.natural? (Nat.repr (0 + index)) = some place := isPlace
        rw [Nat.zero_add, IntegerText.natural?_repr small] at isPlace
        cases isPlace
        rw [Nat.zero_add] at accepts
        exact ⟨accepts, isItem⟩
  listed := by
    intro key found accepts isItem
    cases key with
    | name text =>
        have isPlace : IntegerText.natural? text = some place := eq_of_beq accepts
        have isChild : (Value.array items).get? text = some found := by
          rw [Value.get?, isPlace]
          exact isItem
        exact ⟨text, by simp [chosenChildren, isChild], isPlace⟩
    | dynamic regex =>
        have small := Nat.lt_of_lt_of_le (List.getElem?_eq_some_iff.mp isItem).1 counted
        refine ⟨Nat.repr place, List.mem_filter.mpr ⟨?_, accepts⟩,
          IntegerText.natural?_repr small⟩
        exact Value.mem_numbered_iff.mpr ⟨place, isItem, by rw [Nat.zero_add]⟩

variable {fields : List (PatternKey × Projection)}

/-- What is kept of an object. -/
theorem select_object (free : (nested fields).isFunctionFree = true)
    {properties : List (String × Value)} (ascending : Rows.Ascending properties) :
    ∃ kept, (nested fields).select (.object properties) = some (.object kept) ∧
      Rows.Ascending kept ∧ forall name, Rows.get? name kept =
        (Rows.get? name properties).bind (lastKept (fun key => key.accepts name) fields) := by
  refine ⟨_, select_nested free _, ascending_assembleFields _, fun name => ?_⟩
  rw [get?_assembleFields]
  exact (standsAt_field ascending name).lastAt_keptEntries fields

/-- What is kept of an array. -/
theorem select_array (free : (nested fields).isFunctionFree = true) {items : List Value}
    (counted : items.length ≤ 0x10000000000000000) :
    ∃ kept, (nested fields).select (.array items) = some (.array kept) ∧
      IsFilled kept fun place =>
        items[place]?.bind (lastKept (fun key => key.choosesItem place) fields) :=
  ⟨_, select_nested free _, (isFilled_assembleItems _).congr fun place =>
    ((standsAt_item counted place).lastAt_keptEntries fields).symm⟩

/-- Nothing is kept of a scalar. -/
theorem select_scalar (fields : List (PatternKey × Projection)) {value : Value}
    (scalar : value.isContainer = false) : (nested fields).select value = none := by
  cases value with
  | array items => cases scalar
  | object properties => cases scalar
  | _ => rfl

end Projection

end RecordIndex
