import RecordIndex.Term.Derivation

namespace RecordIndex

/-!
# Paths within declared ones

A path that lies within a declared one is reached, since every path on the way
leads to the declared one.
-/

namespace Deriver

variable {Segment : Type} {admits : Segment -> String -> Bool}

/-- A longer path agrees with less. -/
theorem agrees_of_agrees_append {path rest : List Segment} {names : List String}
    (agreed : agrees admits (path ++ rest) names = true) : agrees admits path names = true := by
  induction path generalizing names with
  | nil =>
      cases names with
      | nil => rfl
      | cons name names => rfl
  | cons segment path ih =>
      cases names with
      | nil => rfl
      | cons name names =>
          rcases Bool.and_eq_true_iff.mp agreed with ⟨here, later⟩
          exact Bool.and_eq_true_iff.mpr ⟨here, ih later⟩

/-- Whatever is within a declared path is reached through its beginnings. -/
theorem leadsToDeclared_of_withinDeclared {deriver : Deriver} {path : List Segment}
    (rest : List Segment) (within : deriver.withinDeclared admits (path ++ rest) = true) :
    deriver.leadsToDeclared admits path = true := by
  unfold withinDeclared at within
  unfold leadsToDeclared
  split at within
  · rfl
  · rcases List.any_eq_true.mp within with ⟨names, member, agreed⟩
    have agreed := (Bool.and_eq_true_iff.mp agreed).2
    exact List.any_eq_true.mpr ⟨names, member, agrees_of_agrees_append agreed⟩

end Deriver

end RecordIndex
