import RecordIndex.Proofs.Term.Pruning
import RecordIndex.Proofs.Value.Walks

namespace RecordIndex

/-!
# Terms at the end of a walk

The terms of a value are those of the scalars that a walk over it comes to, in
its order.  The declared paths do not have to be asked on the way, since a path
that lies within one of them is not left out anywhere before.  So whatever holds
of the terms of scalars can be read off for those of whole values.
-/

namespace Deriver

variable {deriver : Deriver}

theorem mem_leafTerms_iff {path : List String} {scalar : Value} {term : Term} :
    term ∈ deriver.leafTerms path scalar ↔
      term.path = path ∧ path ≠ [] ∧ deriver.withinDeclared nameAdmits path = true ∧
        term.leaf ∈ deriver.leafParts scalar := by
  unfold leafTerms
  cases nonempty : path.isEmpty with
  | true =>
      rw [List.isEmpty_iff] at nonempty
      simp [nonempty]
  | false =>
      rw [List.isEmpty_eq_false_iff] at nonempty
      cases within : deriver.withinDeclared nameAdmits path with
      | false => simp
      | true =>
          simp only [Bool.or_false, Bool.not_true, Bool.false_eq_true, if_false, List.mem_map]
          constructor
          · rintro ⟨leaf, isLeaf, rfl⟩
            exact ⟨rfl, nonempty, trivial, isLeaf⟩
          · rintro ⟨rfl, _, _, isLeaf⟩
            exact ⟨term.leaf, isLeaf, rfl⟩

theorem termsOfFields_eq (path : List String) (fields : List (String × Value)) :
    deriver.termsOfFields path fields = fields.flatMap fun field =>
      if deriver.leadsToDeclared nameAdmits (path ++ [field.1]) then
        deriver.termsAt (path ++ [field.1]) field.2 else [] := by
  induction fields with
  | nil => rfl
  | cons field rest ih => rw [termsOfFields, ih, List.flatMap_cons]

theorem mem_termsOfFields_iff {path : List String} {fields : List (String × Value)}
    {term : Term} : term ∈ deriver.termsOfFields path fields ↔
      ∃ field ∈ fields, deriver.leadsToDeclared nameAdmits (path ++ [field.1]) = true ∧
        term ∈ deriver.termsAt (path ++ [field.1]) field.2 := by
  rw [termsOfFields_eq, List.mem_flatMap]
  simp only [List.mem_ite_nil_right]

theorem termsOfItems_eq (path : List String) (index : Nat) (items : List Value) :
    deriver.termsOfItems path index items =
      deriver.termsOfFields path (Value.numbered index items) := by
  induction items generalizing index with
  | nil => rfl
  | cons item rest ih => rw [termsOfItems, Value.numbered, termsOfFields, ih]

/-- The terms of a container are those of its children. -/
theorem termsAt_container {value : Value} (container : value.isContainer = true)
    (path : List String) :
    deriver.termsAt path value = deriver.termsOfFields path value.children := by
  cases value with
  | array items => exact termsOfItems_eq path 0 items
  | object fields => rfl
  | _ => cases container

theorem termsAt_scalar {value : Value} (scalar : value.isContainer = false) (path : List String) :
    deriver.termsAt path value = deriver.leafTerms path value := by
  cases value with
  | array items => cases scalar
  | object fields => cases scalar
  | _ => rfl

theorem leafParts_container {value : Value} (container : value.isContainer = true) :
    deriver.leafParts value = [] := by
  cases value with
  | array items => rfl
  | object fields => rfl
  | _ => cases container

/-- The terms of a value are those of the scalars inside it, in the same order. -/
theorem termsAt_eq_flatMap (path : List String) (value : Value) :
    deriver.termsAt path value =
      (value.scalars path).flatMap fun visit => deriver.leafTerms visit.1 visit.2 := by
  suffices fromChildren : Value.FromChildren fun value => forall path : List String,
      deriver.termsAt path value =
        (value.scalars path).flatMap fun visit => deriver.leafTerms visit.1 visit.2 from
    fromChildren.holds value path
  intro value ih path
  cases container : value.isContainer with
  | false =>
      rw [termsAt_scalar container, Value.scalars_scalar container, List.flatMap_singleton]
  | true =>
      rw [termsAt_container container, termsOfFields_eq, Value.scalars_container container,
        List.flatMap_assoc, List.flatMap_def, List.flatMap_def]
      apply congrArg List.flatten
      apply List.map_congr_left
      intro child isChild
      cases leads : deriver.leadsToDeclared nameAdmits (path ++ [child.1]) with
      | true => exact ih child isChild _
      | false =>
          -- What is left out here has no term, since no scalar in it is within a declared path.
          refine (List.flatMap_eq_nil_iff.mpr fun visit member => ?_).symm
          rcases Value.mem_scalars_iff.mp member with ⟨names, isPath, _⟩
          apply List.eq_nil_iff_forall_not_mem.mpr
          intro term isTerm
          have within := (mem_leafTerms_iff.mp isTerm).2.2.1
          rw [isPath] at within
          rw [leadsToDeclared_of_withinDeclared names within] at leads
          cases leads

/-- The terms of a record are those of the scalars that a walk over it comes to. -/
theorem recordTerms_eq_flatMap (deriver : Deriver) (value : Value) :
    deriver.recordTerms value =
      (value.scalars []).flatMap fun visit => deriver.leafTerms visit.1 visit.2 :=
  termsAt_eq_flatMap [] value

/-- A value has a term exactly if a walk into it ends at a scalar that has it. -/
theorem mem_termsAt_iff {term : Term} {path : List String} {value : Value} :
    term ∈ deriver.termsAt path value ↔
      ∃ names scalar, value.Leads names scalar ∧
        term ∈ deriver.leafTerms (path ++ names) scalar := by
  rw [termsAt_eq_flatMap, List.mem_flatMap]
  constructor
  · rintro ⟨visit, isVisit, member⟩
    rcases Value.mem_scalars_iff.mp isVisit with ⟨names, isPath, leads, _⟩
    rw [isPath] at member
    exact ⟨names, visit.2, leads, member⟩
  · rintro ⟨names, scalar, leads, member⟩
    refine ⟨(path ++ names, scalar), ?_, member⟩
    refine Value.mem_scalars_iff.mpr ⟨names, rfl, leads, ?_⟩
    apply Bool.eq_false_iff.mpr
    intro container
    rw [mem_leafTerms_iff, leafParts_container container] at member
    cases member.2.2.2

/-- A term of a record is a part of a scalar that a walk comes to by its path, within
the declared paths. -/
theorem mem_recordTerms_iff {term : Term} {value : Value} :
    term ∈ deriver.recordTerms value ↔
      ∃ scalar, value.Leads term.path scalar ∧ term.path ≠ [] ∧
        deriver.withinDeclared nameAdmits term.path = true ∧
        term.leaf ∈ deriver.leafParts scalar := by
  refine mem_termsAt_iff.trans ?_
  simp only [List.nil_append, mem_leafTerms_iff]
  constructor
  · rintro ⟨names, scalar, leads, rfl, isPart⟩
    exact ⟨scalar, leads, isPart⟩
  · rintro ⟨scalar, leads, isPart⟩
    exact ⟨term.path, scalar, leads, rfl, isPart⟩

/-! ## Derivers that derive alike -/

variable {first second : Deriver}

theorem leafParts_congr (texts : forall text, first.textParts text = second.textParts text)
    (scalar : Value) : first.leafParts scalar = second.leafParts scalar := by
  cases scalar with
  | string text => exact texts text
  | _ => rfl

theorem leafTerms_congr (declared : first.declared = second.declared)
    (texts : forall text, first.textParts text = second.textParts text) (path : List String)
    (scalar : Value) : first.leafTerms path scalar = second.leafTerms path scalar := by
  unfold leafTerms withinDeclared
  rw [declared, leafParts_congr texts]

/-- Derivers with the same declared paths that split texts alike derive the
same terms. -/
theorem recordCounts_congr (declared : first.declared = second.declared)
    (texts : forall text, first.textParts text = second.textParts text) (value : Value) :
    first.recordCounts value = second.recordCounts value := by
  unfold recordCounts
  simp only [recordTerms_eq_flatMap, leafTerms_congr declared texts]

end Deriver

end RecordIndex
