import RecordIndex.Proofs.Term.Answers
import RecordIndex.Proofs.Value.Shape

namespace RecordIndex

/-!
# What lies at the end of a path

A term of a well-formed value is a part of the scalar that is reached by the
path of the term.  A test at the end of a path is made on what is reached by
it, so a term that satisfies a test is a part of a scalar that passes it, or a
piece of a string, which passes every test.
-/

namespace Deriver

variable {deriver : Deriver}

/-- The path of a term leads to the scalar that the term is a part of. -/
theorem reached_of_mem_termsAt {term : Term} {path : List String} {value : Value}
    (wellFormed : value.WellFormed) (member : term ∈ deriver.termsAt path value) :
    ∃ rest reached, term.path = path ++ rest ∧ value.getPath? rest = some reached ∧
      term.leaf ∈ deriver.leafParts reached := by
  rcases mem_termsAt_iff.mp member with ⟨names, scalar, leads, member⟩
  rcases mem_leafTerms_iff.mp member with ⟨isPath, _, _, isLeaf⟩
  exact ⟨names, scalar, isPath, leads.getPath? wellFormed, isLeaf⟩

/-- What is reached inside a stored value could have been stored. -/
theorem isStored_of_getPath? {path : List String} {value reached : Value}
    (isStored : value.IsStored) (isReached : value.getPath? path = some reached) :
    reached.IsStored := by
  induction path generalizing value with
  | nil =>
      cases isReached
      exact isStored
  | cons name rest ih =>
      rcases Option.bind_eq_some_iff.mp isReached with ⟨child, isChild, isReached⟩
      exact ih (isStored_of_get? isStored isChild) isReached

/-- A scalar passes the test that a part of it passes, unless the part is a
piece of a string. -/
theorem matched_of_testStored {value : Value} (isStored : value.IsStored) {leaf : KeyPart}
    (isLeaf : leaf ∈ deriver.leafParts value) {test : Value -> Verdict}
    (matched : TermLeaf.testStored deriver.tokenizer.isSome test leaf.keyed = .matched) :
    test value = .matched ∨ deriver.tokenizer.isSome = true ∧ value.string?.isSome = true := by
  unfold TermLeaf.testStored at matched
  dsimp only at matched
  cases isTokenizer : deriver.tokenizer with
  | none =>
      rw [isTokenizer, isStored.ofLeafPart (leafPart?_of_mem_leafParts isTokenizer isLeaf)]
        at matched
      exact .inl matched
  | some tokenizer =>
      by_cases isText : ∃ text, value = .string text
      · rcases isText with ⟨text, rfl⟩
        exact .inr ⟨rfl, rfl⟩
      · have noText : value.string?.isSome = false := by
          cases value with
          | string text => exact absurd ⟨text, rfl⟩ isText
          | _ => rfl
        rw [leafParts_eq fun text same => isText ⟨text, same⟩, Option.mem_toList] at isLeaf
        rw [isStored.ofLeafPart isLeaf, noText, Bool.and_false] at matched
        exact .inl matched

end Deriver

/-! ## Tests at the end of a path -/

namespace Pattern

/-- Ask for what lies at the end of a path and for nothing else. -/
def along (pattern : Pattern) : List PatternKey -> Pattern
  | [] => pattern
  | key :: rest => .nested [(key, pattern.along rest)]

/-- What is asked along a path is asked of what the path leads to. -/
theorem isMatch_along (pattern : Pattern) {path : List String} {value reached : Value}
    (isReached : value.getPath? path = some reached) :
    (pattern.along (path.map .name)).isMatch value = pattern.isMatch reached := by
  induction path generalizing value with
  | nil =>
      cases isReached
      rfl
  | cons name rest ih =>
      rcases Option.bind_eq_some_iff.mp isReached with ⟨child, isChild, isReached⟩
      have container : value.isContainer = true := by
        cases value with
        | array items => rfl
        | object fields => rfl
        | _ => cases isChild
      have asked : (pattern.along ((name :: rest).map .name)).isMatch value =
          (Verdict.ofBool (value.isContainer &&
            ((pattern.along (rest.map .name)).isMatch ((value.get? name).getD .undefined) &&
              true))).isMatch :=
        rfl
      rw [asked, isChild, container, Option.getD_some, ih isReached, Bool.true_and, Bool.and_true]
      cases pattern.isMatch reached with
      | true => rfl
      | false => rfl

end Pattern

end RecordIndex
