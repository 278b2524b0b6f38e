import RecordIndex.Proofs.Pattern.Leaves
import RecordIndex.Proofs.Term.Walks

namespace RecordIndex

/-!
# Terms under declared paths

Declared paths only take terms away, from records and from patterns alike: what
is left of the terms of a pattern is what lies within a declared path, and so
does every term of a record.  A term that is answered by a term of a record
therefore lies within a declared path as well.
-/

namespace Deriver

/-- What derives terms if no paths are declared. -/
def undeclared (deriver : Deriver) : Deriver where
  declared := none
  tokenizer := deriver.tokenizer

variable {deriver : Deriver}

/-! ## Patterns -/

/-- The term lies within a declared path. -/
def retains (deriver : Deriver) (term : QueryTerm) : Bool :=
  deriver.withinDeclared keyAdmits term.path

theorem queryLeaves_eq_filter (path : List PatternKey) (leaves : List TermLeaf) :
    deriver.queryLeaves path leaves =
      (deriver.undeclared.queryLeaves path leaves).filter deriver.retains := by
  have unpruned : deriver.undeclared.queryLeaves path leaves =
      leaves.map fun leaf => ⟨path, leaf⟩ := rfl
  rw [unpruned]
  unfold queryLeaves
  split
  · rename_i within
    refine (List.filter_eq_self.mpr fun term member => ?_).symm
    rcases List.mem_map.mp member with ⟨leaf, _, rfl⟩
    exact within
  · rename_i outside
    refine (List.filter_eq_nil_iff.mpr fun term member => ?_).symm
    rcases List.mem_map.mp member with ⟨leaf, _, rfl⟩
    exact outside

/-- The terms at the end of a path lie beneath it. -/
theorem path_of_mem_queryTermsAt {term : QueryTerm} {path : List PatternKey} {pattern : Pattern}
    (member : term ∈ deriver.queryTermsAt path pattern) : ∃ rest, term.path = path ++ rest := by
  rcases mem_queryTermsAt_iff.mp member with ⟨keys, leaf, leafAt, member⟩
  exact ⟨keys, (path_of_mem_leaf leafAt.isNested_eq_false member).1⟩

mutual

theorem queryTermsAt_eq_filter (path : List PatternKey) :
    forall pattern : Pattern, deriver.queryTermsAt path pattern =
      (deriver.undeclared.queryTermsAt path pattern).filter deriver.retains
  | .nested fields => queryTermsOfFields_eq_filter path fields
  | .regex _ | .predicate _ | .operator _ => queryLeaves_eq_filter path _
  | .literal value => by
      have sameLeaves : deriver.undeclared.literalLeaves value = deriver.literalLeaves value := by
        cases value with
        | _ => rfl
      rw [queryTermsAt, queryTermsAt, sameLeaves]
      exact queryLeaves_eq_filter path _

theorem queryTermsOfFields_eq_filter (path : List PatternKey) :
    forall fields : List (PatternKey × Pattern), deriver.queryTermsOfFields path fields =
      (deriver.undeclared.queryTermsOfFields path fields).filter deriver.retains
  | [] => rfl
  | (key, pattern) :: rest => by
      have leads : deriver.undeclared.leadsToDeclared keyAdmits (path ++ [key]) = true := rfl
      rw [queryTermsOfFields, queryTermsOfFields, if_pos leads, List.filter_append,
        queryTermsOfFields_eq_filter path rest]
      congr 1
      split
      · exact queryTermsAt_eq_filter (path ++ [key]) pattern
      · -- Nothing that lies beneath the path lies within a declared one.
        rename_i astray
        refine (List.filter_eq_nil_iff.mpr fun term member within => astray ?_).symm
        rcases path_of_mem_queryTermsAt member with ⟨below, isPath⟩
        unfold retains at within
        rw [isPath] at within
        exact leadsToDeclared_of_withinDeclared below within

end

/-- Declared paths leave those terms of a pattern that lie within them. -/
theorem queryTerms_eq_filter (pattern : Pattern) :
    deriver.queryTerms pattern =
      (deriver.undeclared.queryTerms pattern).filter deriver.retains := by
  cases pattern with
  | nested fields => exact queryTermsOfFields_eq_filter [] fields
  | _ => rfl

/-! ## Records -/

/-- The terms of a value lie within declared paths. -/
theorem within_of_mem_termsAt {term : Term} {path : List String} {value : Value}
    (member : term ∈ deriver.termsAt path value) :
    deriver.withinDeclared nameAdmits term.path = true := by
  rcases mem_termsAt_iff.mp member with ⟨names, scalar, _, member⟩
  rcases mem_leafTerms_iff.mp member with ⟨isPath, _, within, _⟩
  rw [isPath]
  exact within

/-! ## Answers -/

/-- Keys that accept a path admit whatever the path agrees with. -/
theorem agrees_of_pathAccepts {keys : List PatternKey} {path names : List String}
    (accepts : QueryTerm.pathAccepts keys path = true)
    (agreed : agrees nameAdmits path names = true) : agrees keyAdmits keys names = true := by
  induction keys generalizing path names with
  | nil =>
      cases names with
      | nil => rfl
      | cons name names => rfl
  | cons key keys ih =>
      cases path with
      | nil => cases accepts
      | cons segment path =>
          cases names with
          | nil => rfl
          | cons name names =>
              rcases Bool.and_eq_true_iff.mp accepts with ⟨isAccepted, accepts⟩
              rcases Bool.and_eq_true_iff.mp agreed with ⟨same, agreed⟩
              refine Bool.and_eq_true_iff.mpr ⟨?_, ih accepts agreed⟩
              cases key with
              | name own =>
                  have own : own = segment := eq_of_beq isAccepted
                  rw [own]
                  exact same
              | dynamic _ => rfl

theorem length_of_pathAccepts {keys : List PatternKey} {path : List String}
    (accepts : QueryTerm.pathAccepts keys path = true) : keys.length = path.length := by
  induction keys generalizing path with
  | nil =>
      cases path with
      | nil => rfl
      | cons name path => cases accepts
  | cons key keys ih =>
      cases path with
      | nil => cases accepts
      | cons name path =>
          exact congrArg Nat.succ (ih (Bool.and_eq_true_iff.mp accepts).2)

/-- What accepts the path of a term of a record is left by the declared paths. -/
theorem retains_of_acceptsPath {query : QueryTerm} {value : Value} {term : Term}
    (member : term ∈ deriver.recordTerms value) (accepts : query.acceptsPath term.path = true) :
    deriver.retains query = true := by
  have within := within_of_mem_termsAt member
  unfold retains withinDeclared
  unfold withinDeclared at within
  split
  · rfl
  · rename_i declared isDeclared
    rw [isDeclared] at within
    rcases List.any_eq_true.mp within with ⟨names, isName, agreed⟩
    rcases Bool.and_eq_true_iff.mp agreed with ⟨long, agreed⟩
    refine List.any_eq_true.mpr ⟨names, isName, Bool.and_eq_true_iff.mpr ⟨?_, ?_⟩⟩
    · rw [length_of_pathAccepts accepts]
      exact long
    · exact agrees_of_pathAccepts accepts agreed

end Deriver

end RecordIndex
