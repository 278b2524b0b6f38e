import RecordIndex.Proofs.Value.Shape

namespace RecordIndex

/-!
# What a patch leaves

A patch is followed along paths of property names.  What it has at a path is
merged onto what the value has there, and where it comes to an object without
the next name it spares whatever the value has from there on.

Deleting is where the two sides have to meet.  The patch deletes a property by
an undefined one, and it does so only where the value has an object to delete
it from.  Anywhere else the object of the patch is taken over as it is, with
its undefined properties in it.
-/

namespace Value

/-- The property at a path through nested objects. -/
def property? : List String -> Value -> Option Value
  | [], value => some value
  | name :: rest, .object fields => (Rows.get? name fields).bind (property? rest)
  | _ :: _, _ => none

/-- The patch does not name the path: it comes to an object that lacks the next
name. -/
def Spares : List String -> Value -> Prop
  | name :: rest, .object changes => ∀ change ∈ Rows.get? name changes, Spares rest change
  | _, _ => False

/-- The result is what merging the patch into the value should make of it. -/
structure IsMerge (patch value result : Value) : Prop where
  /-- What the patch sets to undefined is not there. -/
  deletes : forall path, patch.property? path = some .undefined -> result.property? path = none
  /-- Any other value of the patch is there, unless it is an object, which is merged. -/
  holds : forall path change, patch.property? path = some change -> change.isUndefined = false ->
    change.isObject = false -> result.property? path = some change
  /-- What the patch does not name is as it was. -/
  keeps : forall path, patch.Spares path -> forall field,
    value.property? path = some field -> result.property? path = some field
  /-- Every property comes from the patch or from the value. -/
  addsNothing : forall path field, result.property? path = some field ->
    (∃ change, patch.property? path = some change ∧ change.isUndefined = false) ∨
      patch.Spares path ∧ value.property? path = some field

/-- Wherever the patch deletes a property, the value has an object. -/
def Deletable (patch value : Value) : Prop :=
  forall front name, patch.property? (front ++ [name]) = some .undefined ->
    ∃ fields, value.property? front = some (.object fields)

/-! ## Following a path -/

theorem property?_object (name : String) (rest : List String) (fields : List (String × Value)) :
    (Value.object fields).property? (name :: rest) =
      (Rows.get? name fields).bind (property? rest) :=
  rfl

theorem property?_append (front rest : List String) (value : Value) :
    value.property? (front ++ rest) = (value.property? front).bind (property? rest) := by
  induction front generalizing value with
  | nil => rfl
  | cons name front ih =>
      cases value with
      | object fields =>
          rw [List.cons_append, property?_object, property?_object]
          cases Rows.get? name fields with
          | none => rfl
          | some field => exact ih field
      | _ => rfl

theorem property?_cons_of_isObject_eq_false {value : Value} (scalar : value.isObject = false)
    (name : String) (rest : List String) : value.property? (name :: rest) = none := by
  cases value with
  | object fields => cases scalar
  | _ => rfl

/-- What is left of a path after its first name. -/
theorem property?_cons_eq_some {name : String} {rest : List String} {value found : Value}
    (isFound : value.property? (name :: rest) = some found) :
    ∃ fields field, value = .object fields ∧ Rows.get? name fields = some field ∧
      field.property? rest = some found := by
  cases value with
  | object fields =>
      rcases Option.bind_eq_some_iff.mp isFound with ⟨field, isField, later⟩
      exact ⟨fields, field, rfl, isField, later⟩
  | _ => cases isFound

/-- An undefined value has nothing in it. -/
theorem isUndefined_of_property? {path : List String} {value found : Value}
    (isFound : value.property? path = some found) (defined : found.isUndefined = false) :
    value.isUndefined = false := by
  cases value with
  | undefined =>
      cases path with
      | nil => exact Option.some.inj isFound ▸ defined
      | cons name rest => cases isFound
  | _ => rfl

theorem WellFormed.property? {value found : Value} (wellFormed : value.WellFormed)
    {path : List String} (isFound : value.property? path = some found) : found.WellFormed := by
  induction path generalizing value with
  | nil => exact Option.some.inj isFound ▸ wellFormed
  | cons name rest ih =>
      rcases property?_cons_eq_some isFound with ⟨fields, field, rfl, isField, later⟩
      exact ih (wellFormed.child isField) later

theorem property?_eq_none_of_spares {patch : Value} {path : List String}
    (spares : patch.Spares path) : patch.property? path = none := by
  induction path generalizing patch with
  | nil => exact spares.elim
  | cons name rest ih =>
      cases patch with
      | object changes =>
          unfold Value.property?
          cases isChange : Rows.get? name changes with
          | none => rfl
          | some change => exact ih (spares change isChange)
      | _ => rfl

/-- A patch names a path, it spares it, or it has something on the way that is
no object. -/
theorem named_or_spares (patch : Value) (path : List String) :
    (∃ change, patch.property? path = some change) ∨ patch.Spares path ∨
      ∃ front name rest scalar, path = front ++ name :: rest ∧
        patch.property? front = some scalar ∧ scalar.isObject = false := by
  induction path generalizing patch with
  | nil => exact .inl ⟨patch, rfl⟩
  | cons name rest ih =>
      cases isObject : patch.isObject with
      | false => exact .inr (.inr ⟨[], name, rest, patch, rfl, rfl, isObject⟩)
      | true =>
          cases patch with
          | object changes =>
              cases isChange : Rows.get? name changes with
              | none =>
                  refine .inr (.inl fun change isToo => ?_)
                  rw [isChange] at isToo
                  cases isToo
              | some change =>
                  have follow : forall path, (Value.object changes).property? (name :: path) =
                      change.property? path := by
                    intro path
                    rw [property?_object, isChange, Option.bind_some]
                  rcases ih change with ⟨found, isFound⟩ | spares |
                    ⟨front, next, later, scalar, rfl, isScalar, scalar_⟩
                  · exact .inl ⟨found, (follow rest).trans isFound⟩
                  · refine .inr (.inl fun other isOther => ?_)
                    rw [isChange] at isOther
                    cases isOther
                    exact spares
                  · exact .inr (.inr ⟨name :: front, next, later, scalar, rfl,
                      (follow front).trans isScalar, scalar_⟩)
          | _ => cases isObject

/-! ## One level -/

theorem mergeOnto_of_isObject_eq_false (patch : Value) {value : Value}
    (scalar : value.isObject = false) : patch.mergeOnto value = patch := by
  cases value with
  | object fields => cases scalar
  | _ => cases patch <;> rfl

@[simp] theorem mergeOnto_undefined (patch : Value) : patch.mergeOnto .undefined = patch :=
  mergeOnto_of_isObject_eq_false patch rfl

/-- Where the patch has an object there is an object. -/
theorem object_mergeOnto (changes : List (String × Value)) (value : Value) :
    ∃ fields, (Value.object changes).mergeOnto value = .object fields := by
  cases value with
  | object fields => exact ⟨_, rfl⟩
  | _ => exact ⟨_, rfl⟩

theorem mergeOnto_eq_self_of_isObject_eq_false {patch : Value} (scalar : patch.isObject = false)
    (value : Value) : patch.mergeOnto value = patch := by
  cases patch with
  | object changes => cases scalar
  | _ => rfl

/-- A change concerns the field of its name alone. -/
theorem mergeFields_cons (name : String) (change : Value) (rest fields : List (String × Value)) :
    ∃ changed, mergeFields ((name, change) :: rest) fields = mergeFields rest changed ∧
      Rows.get? name changed = (if change.isUndefined then none
        else some (change.mergeOnto ((Rows.get? name fields).getD .undefined))) ∧
      forall other, other ≠ name -> Rows.get? other changed = Rows.get? other fields := by
  refine ⟨_, rfl, ?_, fun other different => ?_⟩
  · split
    · exact Rows.get?_erase_self name fields
    · split
      · rename_i old isOld
        rw [Rows.get?_insert_self, isOld]
        rfl
      · rename_i isNew
        rw [Rows.get?_insert_self, isNew]
        exact congrArg some (mergeOnto_undefined change).symm
  · split
    · exact Rows.get?_erase_of_ne different fields
    · split
      all_goals exact Rows.get?_insert_of_ne different _ fields

/-- Each field of a patch is merged onto the field of its name. -/
theorem get?_mergeFields {changes : List (String × Value)} (ascending : Rows.Ascending changes)
    (fields : List (String × Value)) (name : String) :
    Rows.get? name (mergeFields changes fields) =
      match Rows.get? name changes with
      | none => Rows.get? name fields
      | some change =>
          if change.isUndefined then none
          else some (change.mergeOnto ((Rows.get? name fields).getD .undefined)) := by
  induction changes generalizing fields with
  | nil => rfl
  | cons head rest ih =>
      rcases head with ⟨first, change⟩
      have parts := List.pairwise_cons.mp ascending
      rcases mergeFields_cons first change rest fields with ⟨changed, step, here, elsewhere⟩
      rw [step, ih parts.2]
      by_cases same : name = first
      · subst same
        have nowhereElse : Rows.get? name rest = none := by
          refine Option.eq_none_iff_forall_not_mem.mpr fun other isOther => ?_
          exact Rows.not_lt_self name (parts.1 _ (Rows.mem_of_get? isOther))
        rw [nowhereElse, Rows.get?_cons_self]
        exact here
      · rw [elsewhere name same, Rows.get?_cons_of_ne same]

/-! ## Along a path -/

/-- What the patch has at a path is merged onto what the value has there. -/
theorem property?_mergeOnto {patch : Value} (wellFormed : patch.WellFormed) (value : Value)
    {path : List String} {change : Value} (named : patch.property? path = some change)
    (defined : change.isUndefined = false) :
    (patch.mergeOnto value).property? path =
      some (change.mergeOnto ((value.property? path).getD .undefined)) := by
  induction path generalizing patch value with
  | nil =>
      cases named
      rfl
  | cons name rest ih =>
      rcases property?_cons_eq_some named with ⟨changes, child, rfl, isChild, later⟩
      cases value with
      | object fields =>
          have merged := get?_mergeFields wellFormed.1 fields name
          rw [isChild] at merged
          dsimp only at merged
          rw [isUndefined_of_property? later defined] at merged
          rw [mergeOnto, property?_object, property?_object, merged, if_neg Bool.false_ne_true,
            Option.bind_some, ih (wellFormed.child isChild) _ later]
          cases Rows.get? name fields with
          | some field => rfl
          | none => cases rest <;> rfl
      | _ =>
          rw [mergeOnto_of_isObject_eq_false _ rfl, named]
          exact congrArg some (mergeOnto_undefined change).symm

/-- What the patch does not name stays as it is. -/
theorem property?_mergeOnto_of_spares {patch : Value} (wellFormed : patch.WellFormed)
    (value : Value) {path : List String} (spares : patch.Spares path) :
    (patch.mergeOnto value).property? path = value.property? path := by
  induction path generalizing patch value with
  | nil => exact spares.elim
  | cons name rest ih =>
      cases patch with
      | object changes =>
          cases value with
          | object fields =>
              have merged := get?_mergeFields wellFormed.1 fields name
              rw [mergeOnto, property?_object, property?_object, merged]
              cases isChange : Rows.get? name changes with
              | none => rfl
              | some change =>
                  have spares : change.Spares rest := spares change isChange
                  have defined : change.isUndefined = false := by
                    cases change with
                    | undefined => cases rest <;> exact spares.elim
                    | _ => rfl
                  dsimp only
                  rw [defined, if_neg Bool.false_ne_true, Option.bind_some,
                    ih (wellFormed.child isChange) _ spares]
                  cases Rows.get? name fields with
                  | some field => rfl
                  | none =>
                      cases rest with
                      | nil => exact spares.elim
                      | cons next rest => rfl
          | _ =>
              rw [mergeOnto_of_isObject_eq_false _ rfl]
              exact property?_eq_none_of_spares spares
      | _ => exact spares.elim

/-- A property is deleted if and only if the value has an object there. -/
theorem property?_mergeOnto_eq_none_iff {patch : Value} (wellFormed : patch.WellFormed)
    (value : Value) {front : List String} {name : String}
    (deleted : patch.property? (front ++ [name]) = some .undefined) :
    (patch.mergeOnto value).property? (front ++ [name]) = none ↔
      ∃ fields, value.property? front = some (.object fields) := by
  rw [property?_append] at deleted ⊢
  rcases Option.bind_eq_some_iff.mp deleted with ⟨child, isChild, isUndefined⟩
  rcases property?_cons_eq_some isUndefined with ⟨changes, field, rfl, isField, isLast⟩
  cases isLast
  rw [property?_mergeOnto wellFormed value isChild rfl, Option.bind_some]
  cases isThere : value.property? front with
  | none =>
      rw [Option.getD_none, mergeOnto_undefined, isUndefined]
      exact ⟨nofun, nofun⟩
  | some old =>
      rw [Option.getD_some]
      cases old with
      | object fields =>
          refine ⟨fun _ => ⟨fields, rfl⟩, fun _ => ?_⟩
          have merged := get?_mergeFields (wellFormed.property? isChild).1 fields name
          rw [isField] at merged
          unfold mergeOnto Value.property?
          rw [merged]
          rfl
      | _ =>
          rw [mergeOnto_of_isObject_eq_false _ rfl, isUndefined]
          exact ⟨nofun, nofun⟩

/-! ## Merging a patch twice -/

/-- Within a field of the patch, the field of the value has an object wherever
the patch deletes a property. -/
theorem Deletable.field {changes fields : List (String × Value)}
    (deletable : (Value.object changes).Deletable (.object fields)) {name : String} {change : Value}
    (isChange : Rows.get? name changes = some change) :
    change.Deletable ((Rows.get? name fields).getD .undefined) := by
  intro front last deleted
  rcases deletable (name :: front) last
    (by rw [List.cons_append, property?_object, isChange]; exact deleted) with ⟨inner, isInner⟩
  rw [property?_object] at isInner
  rcases Option.bind_eq_some_iff.mp isInner with ⟨old, isOld, later⟩
  rw [isOld]
  exact ⟨inner, later⟩

/-- From a value without properties a patch can delete nothing, so that it must
not try to. -/
theorem Deletable.deletesNothing {changes : List (String × Value)} {value : Value}
    (deletable : (Value.object changes).Deletable value) (scalar : value.isObject = false)
    {name : String} {change : Value} (isChange : Rows.get? name changes = some change) :
    change.isUndefined = false ∧ forall other, change.Deletable other := by
  have refutes : forall front last,
      (Value.object changes).property? (front ++ [last]) ≠ some .undefined := by
    intro front last deleted
    rcases deletable front last deleted with ⟨fields, isThere⟩
    cases front with
    | nil =>
        cases isThere
        cases scalar
    | cons first rest =>
        rw [property?_cons_of_isObject_eq_false scalar] at isThere
        cases isThere
  constructor
  · refine Bool.eq_false_iff.mpr fun isUndefined => refutes [] name ?_
    rw [List.nil_append, property?_object, isChange]
    cases change with
    | undefined => rfl
    | _ => cases isUndefined
  · intro other front last deleted
    refine absurd ?_ (refutes (name :: front) last)
    rw [List.cons_append, property?_object, isChange]
    exact deleted

mutual

/-- Merging the same patch again changes nothing. -/
theorem mergeOnto_twice : forall {patch value : Value}, patch.WellFormed -> value.WellFormed ->
    patch.Deletable value -> patch.mergeOnto (patch.mergeOnto value) = patch.mergeOnto value
  | .object changes, value, wellFormed, valueToo, deletable => by
      have twice := fields_mergeOnto_twice changes wellFormed.2
      have ascends : forall {fields}, (Value.object fields).WellFormed ->
          Rows.Ascending (mergeFields changes fields) :=
        fun fieldsToo => (wellFormed_mergeFields changes wellFormed.2 fieldsToo).1
      cases isObject : value.isObject with
      | false =>
          rw [mergeOnto_of_isObject_eq_false _ isObject]
          refine congrArg Value.object
            (Rows.eq_of_get?_eq (ascends wellFormed) wellFormed.1 fun name => ?_)
          rw [get?_mergeFields wellFormed.1]
          cases isChange : Rows.get? name changes with
          | none => rfl
          | some change =>
              rcases deletable.deletesNothing isObject isChange with ⟨defined, deletable⟩
              have settled : change.mergeOnto (change.mergeOnto .undefined) = _ :=
                twice (name, change) (Rows.mem_of_get? isChange) trivial (deletable .undefined)
              rw [mergeOnto_undefined] at settled
              dsimp only
              rw [defined, if_neg Bool.false_ne_true]
              exact congrArg some settled
      | true =>
          cases value with
          | object fields =>
              have merged := wellFormed_mergeFields changes wellFormed.2 valueToo
              refine congrArg Value.object
                (Rows.eq_of_get?_eq (ascends merged) merged.1 fun name => ?_)
              rw [get?_mergeFields wellFormed.1, get?_mergeFields wellFormed.1]
              cases isChange : Rows.get? name changes with
              | none => rfl
              | some change =>
                  have fieldToo : ((Rows.get? name fields).getD .undefined).WellFormed := by
                    cases isField : Rows.get? name fields with
                    | none => trivial
                    | some field => exact valueToo.child isField
                  have settled := twice (name, change) (Rows.mem_of_get? isChange) fieldToo
                    (deletable.field isChange)
                  dsimp only
                  split
                  · rfl
                  · exact congrArg some settled
          | _ => cases isObject
  | .undefined, _, _, _, _ | .null, _, _, _, _ | .bool _, _, _, _, _ | .number _, _, _, _, _
  | .string _, _, _, _, _ | .date _, _, _, _, _ | .regExp _ _, _, _, _, _
  | .symbol _, _, _, _, _ | .array _, _, _, _, _ => rfl

theorem fields_mergeOnto_twice : forall changes : List (String × Value), WellFormedFields changes ->
    ∀ change ∈ changes, forall {value : Value}, value.WellFormed -> change.2.Deletable value ->
      change.2.mergeOnto (change.2.mergeOnto value) = change.2.mergeOnto value
  | [], _ => List.forall_mem_nil _
  | _ :: rest, ⟨here, later⟩ => by
      rw [List.forall_mem_cons]
      exact ⟨mergeOnto_twice here, fields_mergeOnto_twice rest later⟩

end

/-! ## What merging amounts to -/

theorem Deletable.deletes {patch value : Value} (deletable : patch.Deletable value)
    (wellFormed : patch.WellFormed) (isObject : patch.isObject = true) {path : List String}
    (deleted : patch.property? path = some .undefined) :
    (patch.mergeOnto value).property? path = none := by
  rcases List.eq_nil_or_concat path with rfl | ⟨front, name, rfl⟩
  · cases deleted
    cases isObject
  · rw [List.concat_eq_append] at deleted ⊢
    exact (property?_mergeOnto_eq_none_iff wellFormed value deleted).mpr
      (deletable front name deleted)

theorem property?_mergeOnto_of_scalar {patch : Value} (wellFormed : patch.WellFormed)
    (value : Value) {path : List String} {change : Value}
    (named : patch.property? path = some change) (defined : change.isUndefined = false)
    (scalar : change.isObject = false) :
    (patch.mergeOnto value).property? path = some change := by
  rw [property?_mergeOnto wellFormed value named defined,
    mergeOnto_eq_self_of_isObject_eq_false scalar]

theorem Deletable.isMerge {patch value : Value} (deletable : patch.Deletable value)
    (wellFormed : patch.WellFormed) (isObject : patch.isObject = true) :
    patch.IsMerge value (patch.mergeOnto value) := by
  have deletes : forall path, patch.property? path = some .undefined ->
      (patch.mergeOnto value).property? path = none :=
    fun path => deletable.deletes wellFormed isObject
  refine ⟨deletes, fun path change => property?_mergeOnto_of_scalar wellFormed value, ?_, ?_⟩
  · intro path spares field isField
    rw [property?_mergeOnto_of_spares wellFormed value spares, isField]
  · intro path field isField
    rcases named_or_spares patch path with ⟨change, named⟩ | spares |
      ⟨front, name, rest, scalar, rfl, isScalar, notObject⟩
    · refine .inl ⟨change, named, Bool.eq_false_iff.mpr fun isUndefined => ?_⟩
      cases change with
      | undefined =>
          rw [deletes path named] at isField
          cases isField
      | _ => cases isUndefined
    · rw [property?_mergeOnto_of_spares wellFormed value spares] at isField
      exact .inr ⟨spares, isField⟩
    · -- Beyond something that is no object the result has nothing either.
      rw [property?_append] at isField
      cases defined : scalar.isUndefined with
      | true =>
          cases scalar with
          | undefined =>
              rw [deletes front isScalar] at isField
              cases isField
          | _ => cases defined
      | false =>
          rw [property?_mergeOnto_of_scalar wellFormed value isScalar defined notObject,
            Option.bind_some, property?_cons_of_isObject_eq_false notObject] at isField
          cases isField

/-- A deletion that fails the first time succeeds the second time. -/
theorem deletable_of_mergeOnto_twice {patch value : Value} (wellFormed : patch.WellFormed)
    (again : patch.mergeOnto (patch.mergeOnto value) = patch.mergeOnto value) :
    patch.Deletable value := by
  intro front name deleted
  have isThere : ∃ fields, (patch.mergeOnto value).property? front = some (.object fields) := by
    rw [property?_append] at deleted
    rcases Option.bind_eq_some_iff.mp deleted with ⟨child, isChild, isUndefined⟩
    rcases property?_cons_eq_some isUndefined with ⟨changes, _, rfl, _, _⟩
    rcases object_mergeOnto changes ((value.property? front).getD .undefined) with
      ⟨fields, isMerged⟩
    exact ⟨fields, isMerged ▸ property?_mergeOnto wellFormed value isChild rfl⟩
  have removed := (property?_mergeOnto_eq_none_iff wellFormed _ deleted).mpr isThere
  rw [again] at removed
  exact (property?_mergeOnto_eq_none_iff wellFormed value deleted).mp removed

/-- Whatever is merged, a value of the patch that is no object takes its place
and what the patch does not name stays as it is.  The result is all that it
should be, and merging the patch again changes nothing, if and only if the value
has an object wherever the patch deletes a property. -/
theorem isMerge_mergeOnto_iff {patch value : Value} (wellFormed : patch.WellFormed)
    (valueToo : value.WellFormed) (isObject : patch.isObject = true) :
    (forall path change, patch.property? path = some change -> change.isUndefined = false ->
      change.isObject = false -> (patch.mergeOnto value).property? path = some change) ∧
    (forall path, patch.Spares path ->
      (patch.mergeOnto value).property? path = value.property? path) ∧
    (patch.IsMerge value (patch.mergeOnto value) ↔ patch.Deletable value) ∧
    (patch.mergeOnto (patch.mergeOnto value) = patch.mergeOnto value ↔ patch.Deletable value) := by
  refine ⟨fun path change => property?_mergeOnto_of_scalar wellFormed value,
    fun path => property?_mergeOnto_of_spares wellFormed value,
    ⟨fun isMerge front name deleted => ?_, fun deletable => deletable.isMerge wellFormed isObject⟩,
    deletable_of_mergeOnto_twice wellFormed, mergeOnto_twice wellFormed valueToo⟩
  exact (property?_mergeOnto_eq_none_iff wellFormed value deleted).mp (isMerge.deletes _ deleted)

/-! ## A move to another town -/

/-- The town changes and the street is deleted. -/
def moving : Value :=
  .object [("home", .object [("street", .undefined), ("town", .string "bern")])]

def housed : Value :=
  .object [("home", .object [("street", .string "rheingasse"), ("town", .string "basel")]),
    ("name", .string "john")]

def homeless : Value :=
  .object [("name", .string "john")]

theorem wellFormed_moving : moving.WellFormed := by
  refine ⟨List.pairwise_singleton _ _, ⟨?_, trivial, trivial, trivial⟩, trivial⟩
  unfold Rows.Ascending
  decide

theorem wellFormed_housed : housed.WellFormed := by
  refine ⟨?_, ⟨?_, trivial, trivial, trivial⟩, trivial, trivial⟩
  all_goals
    unfold Rows.Ascending
    decide

theorem deletable_moving : moving.Deletable housed := by
  intro front name deleted
  cases front with
  | nil =>
      rcases property?_cons_eq_some deleted with ⟨_, home, same, isHome, isUndefined⟩
      cases same
      cases List.mem_singleton.mp (Rows.mem_of_get? isHome)
      cases isUndefined
  | cons first rest =>
      rcases property?_cons_eq_some deleted with ⟨_, home, same, isHome, later⟩
      cases same
      cases List.mem_singleton.mp (Rows.mem_of_get? isHome)
      cases rest with
      | nil => exact ⟨_, rfl⟩
      | cons second rest =>
          -- The street and the town have nothing in them that could be deleted.
          rcases property?_cons_eq_some later with ⟨_, part, same, isPart, beyond⟩
          cases same
          have scalar : part.isObject = false := by
            rcases List.mem_cons.mp (Rows.mem_of_get? isPart) with here | there
            · cases here
              rfl
            · cases List.mem_singleton.mp there
              rfl
          have longer : (rest ++ [name]).length = rest.length + 1 := List.length_append
          rcases List.exists_cons_of_length_eq_add_one longer with ⟨next, later, isPath⟩
          have beyond : part.property? (rest ++ [name]) = some .undefined := beyond
          rw [isPath, property?_cons_of_isObject_eq_false scalar] at beyond
          cases beyond

theorem isMerge_mergeOnto_moving :
    moving.mergeOnto housed =
        .object [("home", .object [("town", .string "bern")]), ("name", .string "john")] ∧
      moving.IsMerge housed (moving.mergeOnto housed) ∧
      moving.mergeOnto (moving.mergeOnto housed) = moving.mergeOnto housed := by
  have merging := isMerge_mergeOnto_iff wellFormed_moving wellFormed_housed rfl
  exact ⟨rfl, merging.2.2.1.mpr deletable_moving, merging.2.2.2.mpr deletable_moving⟩

/-- Who has no home gets one whose street is undefined, which a second merge
removes. -/
theorem not_isMerge_mergeOnto_homeless :
    ¬ moving.IsMerge homeless (moving.mergeOnto homeless) ∧
      moving.mergeOnto (moving.mergeOnto homeless) ≠ moving.mergeOnto homeless := by
  constructor
  · intro isMerge
    have deleted := isMerge.deletes ["home", "street"] rfl
    cases deleted
  · intro again
    have isThere := congrArg (property? ["home", "street"]) again
    cases isThere

end Value

end RecordIndex
