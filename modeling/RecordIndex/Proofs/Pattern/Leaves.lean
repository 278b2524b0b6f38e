import RecordIndex.Proofs.Pattern.Comparing
import RecordIndex.Proofs.Term.Pruning
import RecordIndex.Proofs.Value.Shape

namespace RecordIndex

/-!
# Leaves of a pattern

Nested patterns only say where to look: what is asked is asked by the leaves at
the end of their keys.  A pattern that matches has each leaf match whatever its
keys lead to, which may be many things where a key is an expression, and nothing
at all.
-/

namespace Pattern

def isNested : Pattern -> Bool
  | .nested _ => true
  | _ => false

/-- What is asked of the properties. -/
def fields : Pattern -> List (PatternKey × Pattern)
  | .nested fields => fields
  | _ => []

/-- What holds of a pattern if it holds of what is asked of the properties. -/
def FromFields (motive : Pattern -> Prop) : Prop :=
  forall pattern : Pattern, (∀ field ∈ pattern.fields, motive field.2) -> motive pattern

mutual

/-- What goes from the properties to the pattern holds of every pattern. -/
theorem FromFields.holds {motive : Pattern -> Prop} (fromFields : FromFields motive) :
    forall pattern : Pattern, motive pattern
  | .nested fields => fromFields _ (fromFields.each fields)
  | .literal _ | .regex _ | .predicate _ | .operator _ => fromFields _ (List.forall_mem_nil _)

theorem FromFields.each {motive : Pattern -> Prop} (fromFields : FromFields motive) :
    forall fields : List (PatternKey × Pattern), ∀ field ∈ fields, motive field.2
  | [] => List.forall_mem_nil _
  | (key, pattern) :: rest => by
      rw [List.forall_mem_cons]
      exact ⟨fromFields.holds pattern, fromFields.each rest⟩

end

/-- The keys lead to a leaf of the pattern. -/
inductive LeafAt : Pattern -> List PatternKey -> Pattern -> Prop where
  | here {leaf : Pattern} (isLeaf : leaf.isNested = false) : LeafAt leaf [] leaf
  | field {fields : List (PatternKey × Pattern)} {key : PatternKey} {pattern leaf : Pattern}
      {rest : List PatternKey} (isField : (key, pattern) ∈ fields)
      (leafAt : LeafAt pattern rest leaf) : LeafAt (.nested fields) (key :: rest) leaf

theorem LeafAt.isNested_eq_false {pattern leaf : Pattern} {keys : List PatternKey}
    (leafAt : pattern.LeafAt keys leaf) : leaf.isNested = false := by
  induction leafAt with
  | here isLeaf => exact isLeaf
  | field _ _ ih => exact ih

/-- Where nothing is nested any further, each property asks by itself. -/
theorem LeafAt.of_flat {fields : List (PatternKey × Pattern)}
    (flat : ∀ field ∈ fields, field.2.isNested = false) {keys : List PatternKey} {leaf : Pattern}
    (leafAt : (Pattern.nested fields).LeafAt keys leaf) :
    ∃ field ∈ fields, keys = [field.1] ∧ leaf = field.2 := by
  cases leafAt with
  | here isLeaf => cases isLeaf
  | field isField leafAt =>
      cases leafAt with
      | here _ => exact ⟨_, isField, rfl, rfl⟩
      | field _ _ => cases flat _ isField

/-! ## What is matched -/

/-- What is asked for a key is asked of every child that the key accepts. -/
theorem matched_of_mem_children {fields : List (PatternKey × Pattern)} {value child : Value}
    (wellFormed : value.WellFormed) (matched : fieldsMatch fields value = true) {name : String}
    (isChild : (name, child) ∈ value.children) :
    ∀ field ∈ fields, field.1.accepts name = true -> field.2.verdict child = .matched := by
  induction fields with
  | nil => exact List.forall_mem_nil _
  | cons field rest ih =>
      rcases field with ⟨key, pattern⟩
      rcases Bool.and_eq_true_iff.mp matched with ⟨here, later⟩
      rw [List.forall_mem_cons]
      refine ⟨fun accepts => ?_, ih later⟩
      cases key with
      | name own =>
          have own : own = name := eq_of_beq accepts
          subst own
          dsimp only at here
          rw [Value.get?_child wellFormed isChild] at here
          exact eq_of_beq here
      | dynamic regex =>
          have accepts : regex.isMatch name = true := accepts
          have here := List.all_eq_true.mp here _ isChild
          dsimp only at here
          rw [accepts] at here
          exact eq_of_beq here

/-- A leaf of a pattern that matches a value matches everything that its keys
lead to. -/
theorem LeafAt.matched {pattern leaf : Pattern} {keys : List PatternKey}
    (leafAt : pattern.LeafAt keys leaf) {value reached : Value} (wellFormed : value.WellFormed)
    (matched : pattern.verdict value = .matched) {names : List String}
    (leads : value.Leads names reached) (accepts : QueryTerm.pathAccepts keys names = true) :
    leaf.verdict reached = .matched := by
  induction leafAt generalizing value names with
  | here isLeaf =>
      cases leads with
      | here => exact matched
      | child _ _ => cases accepts
  | field isField leafAt ih =>
      cases leads with
      | here => cases accepts
      | child isChild leads =>
          rcases Bool.and_eq_true_iff.mp accepts with ⟨isAccepted, accepts⟩
          have fieldsMatch := (Bool.and_eq_true_iff.mp (Verdict.ofBool_eq_matched.mp matched)).2
          have childWellFormed := wellFormed.child (Value.get?_child wellFormed isChild)
          exact ih childWellFormed
            (matched_of_mem_children wellFormed fieldsMatch isChild _ isField isAccepted) leads
            accepts

end Pattern

/-! ## What is asked -/

namespace Deriver

variable {deriver : Deriver}

theorem mem_queryTermsOfFields_iff {path : List PatternKey}
    {fields : List (PatternKey × Pattern)} {term : QueryTerm} :
    term ∈ deriver.queryTermsOfFields path fields ↔
      ∃ field ∈ fields, deriver.leadsToDeclared keyAdmits (path ++ [field.1]) = true ∧
        term ∈ deriver.queryTermsAt (path ++ [field.1]) field.2 := by
  induction fields with
  | nil => simp [queryTermsOfFields]
  | cons field rest ih =>
      rw [queryTermsOfFields, List.mem_append, ih, List.mem_ite_nil_right]
      simp only [List.mem_cons, exists_eq_or_imp]

/-- What a leaf asks for is asked for at its path, within the declared paths. -/
theorem path_of_mem_leaf {path : List PatternKey} {leaf : Pattern} {term : QueryTerm}
    (isLeaf : leaf.isNested = false) (member : term ∈ deriver.queryTermsAt path leaf) :
    term.path = path ∧ deriver.withinDeclared keyAdmits path = true := by
  have asked {leaves : List TermLeaf} (member : term ∈ deriver.queryLeaves path leaves) :
      term.path = path ∧ deriver.withinDeclared keyAdmits path = true := by
    unfold queryLeaves at member
    split at member
    · rename_i within
      rcases List.mem_map.mp member with ⟨leaf, _, rfl⟩
      exact ⟨rfl, within⟩
    · cases member
  cases leaf with
  | nested fields => cases isLeaf
  | _ => exact asked member

/-- The terms of a pattern are those that its leaves ask for. -/
theorem mem_queryTermsAt_iff {path : List PatternKey} {pattern : Pattern} {term : QueryTerm} :
    term ∈ deriver.queryTermsAt path pattern ↔ ∃ keys leaf, pattern.LeafAt keys leaf ∧
      term ∈ deriver.queryTermsAt (path ++ keys) leaf := by
  suffices fromFields : Pattern.FromFields fun pattern => forall path : List PatternKey,
      term ∈ deriver.queryTermsAt path pattern ↔ ∃ keys leaf, pattern.LeafAt keys leaf ∧
        term ∈ deriver.queryTermsAt (path ++ keys) leaf from fromFields.holds pattern path
  intro pattern ih path
  cases isLeaf : pattern.isNested with
  | false =>
      constructor
      · intro member
        refine ⟨[], pattern, .here isLeaf, ?_⟩
        rwa [List.append_nil]
      · rintro ⟨keys, leaf, leafAt, member⟩
        cases leafAt with
        | here => rwa [List.append_nil] at member
        | field => cases isLeaf
  | true =>
      cases pattern with
      | nested fields =>
          refine mem_queryTermsOfFields_iff.trans ⟨?_, ?_⟩
          · rintro ⟨⟨key, pattern⟩, isField, _, member⟩
            rcases (ih (key, pattern) isField _).mp member with ⟨keys, leaf, leafAt, member⟩
            refine ⟨key :: keys, leaf, .field isField leafAt, ?_⟩
            rwa [List.append_cons]
          · rintro ⟨keys, leaf, leafAt, member⟩
            cases leafAt with
            | here isLeaf => cases isLeaf
            | @field _ key pattern _ rest isField leafAt =>
                rw [List.append_cons] at member
                have within := (path_of_mem_leaf leafAt.isNested_eq_false member).2
                exact ⟨(key, pattern), isField, leadsToDeclared_of_withinDeclared rest within,
                  (ih _ isField _).mpr ⟨rest, leaf, leafAt, member⟩⟩
      | _ => cases isLeaf

theorem mem_queryTerms_iff {fields : List (PatternKey × Pattern)} {term : QueryTerm} :
    term ∈ deriver.queryTerms (.nested fields) ↔ ∃ keys leaf,
      (Pattern.nested fields).LeafAt keys leaf ∧ term ∈ deriver.queryTermsAt keys leaf := by
  change term ∈ deriver.queryTermsAt [] (.nested fields) ↔ _
  exact mem_queryTermsAt_iff

end Deriver

end RecordIndex
