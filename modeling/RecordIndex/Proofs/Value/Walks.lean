import RecordIndex.Proofs.Table.Lookup
import RecordIndex.Proofs.Text.Integer
import RecordIndex.Value

namespace RecordIndex

/-!
# Walks into a value

A walk goes from a value to a child, from there to a child of the child, and so
on.  The names on the way are those that the children are listed under, so an
item of an array goes by the one way in which its position is written.  The
scalars inside a value are listed in the order of its parts, and they are what
its walks end at.
-/

/-- A name that is read as a position is written as the position is. -/
def IntegerText.IsCanonical (name : String) : Prop :=
  forall index, natural? name = some index -> name = Nat.repr index

theorem IntegerText.isCanonical_of_unpadded {name : String} (unpadded : isPadded name = false) :
    IsCanonical name := by
  intro index isPosition
  exact (eq_repr_iff isPosition).mpr unpadded

namespace Value

/-! ## Children -/

theorem mem_numbered_iff {index : Nat} {items : List Value} {name : String} {item : Value} :
    (name, item) ∈ numbered index items ↔
      ∃ place, items[place]? = some item ∧ name = Nat.repr (index + place) := by
  induction items generalizing index with
  | nil => simp [numbered]
  | cons first rest ih =>
      rw [numbered, List.mem_cons, ih]
      constructor
      · rintro (here | ⟨place, isItem, rfl⟩)
        · cases here
          exact ⟨0, rfl, rfl⟩
        · exact ⟨place + 1, isItem, congrArg Nat.repr (Nat.add_right_comm index 1 place)⟩
      · rintro ⟨place, isItem, rfl⟩
        cases place with
        | zero =>
            cases isItem
            exact .inl rfl
        | succ place =>
            exact .inr ⟨place, isItem, congrArg Nat.repr (Nat.add_right_comm index place 1)⟩

theorem children_of_scalar {value : Value} (scalar : value.isContainer = false) :
    value.children = [] := by
  cases value with
  | array items => cases scalar
  | object fields => cases scalar
  | _ => rfl

theorem isContainer_of_mem_children {value : Value} {child : String × Value}
    (isChild : child ∈ value.children) : value.isContainer = true := by
  cases container : value.isContainer with
  | true => rfl
  | false =>
      rw [children_of_scalar container] at isChild
      cases isChild

/-- What is found by a name is listed under it, if the name of a position is
written as positions are. -/
theorem mem_children_of_get? {name : String} (canonical : IntegerText.IsCanonical name)
    {value child : Value} (isChild : value.get? name = some child) :
    (name, child) ∈ value.children := by
  cases value with
  | object fields => exact Rows.mem_of_get? isChild
  | array items =>
      rcases Option.bind_eq_some_iff.mp isChild with ⟨place, isPlace, isItem⟩
      refine mem_numbered_iff.mpr ⟨place, isItem, ?_⟩
      rw [Nat.zero_add]
      exact canonical place isPlace
  | _ => cases isChild

/-- What holds of a value if it holds of its children. -/
def FromChildren (motive : Value -> Prop) : Prop :=
  forall value : Value, (∀ child ∈ value.children, motive child.2) -> motive value

mutual

/-- What goes from the children to the value holds of every value. -/
theorem FromChildren.holds {motive : Value -> Prop} (fromChildren : FromChildren motive) :
    forall value : Value, motive value
  | .array items => fromChildren _ (fromChildren.numbered 0 items)
  | .object fields => fromChildren _ (fromChildren.fields fields)
  | .undefined | .null | .bool _ | .number _ | .string _ | .date _ | .regExp _ _ | .symbol _ =>
      fromChildren _ (List.forall_mem_nil _)

theorem FromChildren.numbered {motive : Value -> Prop} (fromChildren : FromChildren motive) :
    forall (index : Nat) (items : List Value), ∀ child ∈ numbered index items, motive child.2
  | _, [] => List.forall_mem_nil _
  | index, item :: rest => by
      rw [Value.numbered, List.forall_mem_cons]
      exact ⟨fromChildren.holds item, fromChildren.numbered (index + 1) rest⟩

theorem FromChildren.fields {motive : Value -> Prop} (fromChildren : FromChildren motive) :
    forall fields : List (String × Value), ∀ child ∈ fields, motive child.2
  | [] => List.forall_mem_nil _
  | (name, value) :: rest => by
      rw [List.forall_mem_cons]
      exact ⟨fromChildren.holds value, fromChildren.fields rest⟩

end

/-! ## Scalars -/

mutual

/-- The scalars inside a value at the end of a path, each under its own path, as
a walk over the whole value comes to them.  A scalar is all that is inside it, but at
the empty path it has no terms. -/
def scalars (path : List String) : Value -> List (List String × Value)
  | .array items => scalarsOfItems path 0 items
  | .object fields => scalarsOfFields path fields
  | scalar => [(path, scalar)]
termination_by structural value => value

def scalarsOfItems (path : List String) (index : Nat) :
    List Value -> List (List String × Value)
  | [] => []
  | item :: rest =>
      scalars (path ++ [Nat.repr index]) item ++ scalarsOfItems path (index + 1) rest
termination_by structural items => items

def scalarsOfFields (path : List String) :
    List (String × Value) -> List (List String × Value)
  | [] => []
  | (name, value) :: rest => scalars (path ++ [name]) value ++ scalarsOfFields path rest
termination_by structural fields => fields

end

theorem scalarsOfFields_eq (path : List String) (fields : List (String × Value)) :
    scalarsOfFields path fields =
      fields.flatMap fun field => field.2.scalars (path ++ [field.1]) := by
  induction fields with
  | nil => rfl
  | cons field rest ih => rw [scalarsOfFields, ih, List.flatMap_cons]

theorem scalarsOfItems_eq (path : List String) (index : Nat) (items : List Value) :
    scalarsOfItems path index items = scalarsOfFields path (numbered index items) := by
  induction items generalizing index with
  | nil => rfl
  | cons item rest ih => rw [scalarsOfItems, numbered, scalarsOfFields, ih]

/-- The scalars inside a container are those inside its children. -/
theorem scalars_container {value : Value} (container : value.isContainer = true)
    (path : List String) : value.scalars path =
      value.children.flatMap fun child => child.2.scalars (path ++ [child.1]) := by
  rw [← scalarsOfFields_eq]
  cases value with
  | array items => exact scalarsOfItems_eq path 0 items
  | object fields => rfl
  | _ => cases container

theorem scalars_scalar {value : Value} (scalar : value.isContainer = false)
    (path : List String) : value.scalars path = [(path, value)] := by
  cases value with
  | array items => cases scalar
  | object fields => cases scalar
  | _ => rfl

/-! ## Walks -/

/-- The names lead from the value to what is reached, from child to child. -/
inductive Leads : Value -> List String -> Value -> Prop where
  | here (value : Value) : Leads value [] value
  | child {value child reached : Value} {name : String} {rest : List String}
      (isChild : (name, child) ∈ value.children) (leads : Leads child rest reached) :
      Leads value (name :: rest) reached

/-- Nothing lies inside a scalar. -/
theorem Leads.of_scalar {value reached : Value} {names : List String}
    (leads : value.Leads names reached) (scalar : value.isContainer = false) :
    names = [] ∧ reached = value := by
  cases leads with
  | here => exact ⟨rfl, rfl⟩
  | child isChild _ =>
      rw [children_of_scalar scalar] at isChild
      cases isChild

/-- The scalars inside a value are what walks into it end at. -/
theorem mem_scalars_iff {path : List String} {visit : List String × Value} {value : Value} :
    visit ∈ value.scalars path ↔ ∃ names, visit.1 = path ++ names ∧
      value.Leads names visit.2 ∧ visit.2.isContainer = false := by
  suffices fromChildren : FromChildren fun value => forall path : List String,
      visit ∈ value.scalars path ↔ ∃ names, visit.1 = path ++ names ∧
        value.Leads names visit.2 ∧ visit.2.isContainer = false from
    fromChildren.holds value path
  intro value ih path
  cases container : value.isContainer with
  | false =>
      rw [scalars_scalar container, List.mem_singleton]
      constructor
      · rintro rfl
        exact ⟨[], (List.append_nil path).symm, .here value, container⟩
      · rintro ⟨names, isPath, leads, _⟩
        rcases leads.of_scalar container with ⟨rfl, isScalar⟩
        rw [List.append_nil] at isPath
        exact Prod.ext isPath isScalar
  | true =>
      rw [scalars_container container, List.mem_flatMap]
      constructor
      · rintro ⟨⟨name, child⟩, isChild, member⟩
        rcases (ih (name, child) isChild _).mp member with ⟨names, isPath, leads, scalar⟩
        refine ⟨name :: names, ?_, .child isChild leads, scalar⟩
        rw [isPath, List.append_assoc, List.singleton_append]
      · rintro ⟨names, isPath, leads, scalar⟩
        cases leads with
        | here =>
            rw [container] at scalar
            cases scalar
        | @child _ child _ name rest isChild leads =>
            rw [List.append_cons] at isPath
            exact ⟨(name, child), isChild, (ih _ isChild _).mpr ⟨rest, isPath, leads, scalar⟩⟩

end Value

end RecordIndex
