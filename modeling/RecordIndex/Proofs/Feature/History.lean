import Mathlib.Data.List.Forall2
import RecordIndex.Proofs.Feature.Learned

namespace RecordIndex

/-!
# Learning from records

The features of a list take in records one after another, each of them apart
from the others.  In the end each of them sums up what the records have at its
path, whatever the order of the records.  It is told truly whether a record has
changed anything, and a record that was taken in before never does.
-/

namespace Feature

/-- What the records have at a path, one after another. -/
def foundAt (path : List String) (records : List Value) : List Value :=
  records.filterMap fun record => record.getPath? path

/-- Every feature takes in the records one after another. -/
def learnHistory (records : List Value) (features : List Feature) : List Feature :=
  records.foldl (fun features record => (learnAll record features).1) features

/-- What becomes of a feature that takes in the records. -/
def behind (records : List Value) (feature : Feature) : Feature :=
  { feature with kind := feature.kind.learnEach (foundAt feature.path records) }

/-- The feature sums up what the records have at its path. -/
structure Summarises (records : List Value) (before after : Feature) : Prop where
  samePath : after.path = before.path
  summary : FeatureKind.IsSummary (foundAt before.path records) before.kind after.kind

/-- Features of one path that differ only in the signs of zeros and in the order
of their categories. -/
structure IsAlike (first second : Feature) : Prop where
  samePath : first.path = second.path
  alike : first.kind.IsAlike second.kind

/-! ## One feature -/

theorem behind_cons (record : Value) (records : List Value) (feature : Feature) :
    behind (record :: records) feature = behind records (feature.learn record).1 := by
  unfold behind foundAt learn
  cases isFound : record.getPath? feature.path with
  | none => simp [isFound]
  | some found => simp [isFound, FeatureKind.learnEach]

theorem summarises_behind {feature : Feature} (hasNumbers : feature.kind.HasNumbers)
    (records : List Value) : Summarises records feature (behind records feature) where
  samePath := rfl
  summary := (FeatureKind.isSummary_nil hasNumbers).learnEach (foundAt feature.path records)

theorem Summarises.alike {records others : List Value} {before after after' : Feature}
    (hasNumbers : before.kind.HasNumbers) (summarises : Summarises records before after)
    (summarises' : Summarises others before after') (perm : records.Perm others) :
    after.IsAlike after' where
  samePath := summarises.samePath.trans summarises'.samePath.symm
  alike := summarises.summary.alike hasNumbers summarises'.summary (perm.filterMap _)

theorem Summarises.unchanged {records : List Value} {before after : Feature}
    (summarises : Summarises records before after) {record : Value} (isTaken : record ∈ records) :
    (after.learn record).2 = false := by
  unfold learn
  cases isFound : record.getPath? after.path with
  | none => rfl
  | some found =>
      have member : found ∈ foundAt before.path records := by
        rw [← summarises.samePath]
        exact List.mem_filterMap.mpr ⟨record, isTaken, isFound⟩
      exact summarises.summary.unchanged member

/-! ## All features -/

/-- The features of a list learn apart from each other. -/
theorem learnAll_fst (record : Value) (features : List Feature) :
    (learnAll record features).1 = features.map fun feature => (feature.learn record).1 := by
  induction features with
  | nil => rfl
  | cons feature rest ih => simp [learnAll, ih]

theorem learnAll_unchanged {record : Value} {features : List Feature}
    (unchanged : ∀ feature ∈ features, (feature.learn record).2 = false) :
    learnAll record features = (features, false) := by
  have told : (learnAll record features).2 = false := by
    induction features with
    | nil => rfl
    | cons feature rest ih =>
        rcases List.forall_mem_cons.mp unchanged with ⟨here, later⟩
        simp [learnAll, here, ih later]
  exact Prod.ext (learnAll_of_unchanged told) told

theorem learnHistory_eq (records : List Value) (features : List Feature) :
    learnHistory records features = features.map (behind records) := by
  induction records generalizing features with
  | nil =>
      have stays : behind [] = id := rfl
      rw [stays, List.map_id]
      rfl
  | cons record rest ih =>
      calc learnHistory (record :: rest) features
        _ = (learnAll record features).1.map (behind rest) := ih _
        _ = features.map (behind (record :: rest)) := by
          rw [learnAll_fst, List.map_map]
          congr 1
          funext feature
          exact (behind_cons record rest feature).symm

variable {features : List Feature}

theorem summarises_learnHistory (hasNumbers : ∀ feature ∈ features, feature.kind.HasNumbers)
    (records : List Value) :
    List.Forall₂ (Summarises records) features (learnHistory records features) := by
  rw [learnHistory_eq, List.forall₂_map_right_iff, List.forall₂_same]
  exact fun feature member => summarises_behind (hasNumbers feature member) records

/-- Features sum up the records that they have taken in, in whatever order.  A
call tells whether it changed something, and nothing changes by a record that was
taken in before. -/
theorem learned_is_summary (hasNumbers : ∀ feature ∈ features, feature.kind.HasNumbers)
    (records : List Value) :
    List.Forall₂ (Summarises records) features (learnHistory records features) ∧
    (forall others, records.Perm others ->
      List.Forall₂ IsAlike (learnHistory records features) (learnHistory others features)) ∧
    (forall record, (learnAll record (learnHistory records features)).2 = true ↔
      (learnAll record (learnHistory records features)).1 ≠ learnHistory records features) ∧
    ∀ record ∈ records, learnAll record (learnHistory records features) =
      (learnHistory records features, false) := by
  refine ⟨summarises_learnHistory hasNumbers records, fun others perm => ?_,
    fun record => learnAll_changed_iff record _, fun record isTaken => ?_⟩
  · rw [learnHistory_eq, learnHistory_eq, List.forall₂_map_left_iff, List.forall₂_map_right_iff,
      List.forall₂_same]
    intro feature member
    have numbers := hasNumbers feature member
    exact (summarises_behind numbers records).alike numbers (summarises_behind numbers others) perm
  · apply learnAll_unchanged
    rw [learnHistory_eq, List.forall_mem_map]
    intro feature member
    exact (summarises_behind (hasNumbers feature member) records).unchanged isTaken

/-! ## Two people -/

/-- The age of a person, and a color of which one is known. -/
def personFeatures : List Feature :=
  [⟨["age"], .numeric none none false⟩, ⟨["color"], .categorical ["red"] false⟩]

def redTwenty : Value :=
  .object [("age", .number (.ofInt 20)), ("color", .string "red")]

def blueForty : Value :=
  .object [("age", .number (.ofInt 40)), ("color", .string "blue")]

/-- Two people are learned alike in both orders, and neither of them twice. -/
theorem learned_is_summary_persons :
    (∀ feature ∈ personFeatures, feature.kind.HasNumbers) ∧
    List.Forall₂ (Summarises [redTwenty, blueForty]) personFeatures
      (learnHistory [redTwenty, blueForty] personFeatures) ∧
    [redTwenty, blueForty].Perm [blueForty, redTwenty] ∧
    List.Forall₂ IsAlike (learnHistory [redTwenty, blueForty] personFeatures)
      (learnHistory [blueForty, redTwenty] personFeatures) ∧
    (learnAll blueForty (learnHistory [redTwenty] personFeatures)).2 = true ∧
    redTwenty ∈ [redTwenty, blueForty] ∧
    learnAll redTwenty (learnHistory [redTwenty, blueForty] personFeatures) =
      (learnHistory [redTwenty, blueForty] personFeatures, false) := by
  have hasNumbers : ∀ feature ∈ personFeatures, feature.kind.HasNumbers := by
    simp [personFeatures, FeatureKind.HasNumbers]
  have summary := learned_is_summary hasNumbers [redTwenty, blueForty]
  have changed := (learned_is_summary hasNumbers [redTwenty]).2.2.1 blueForty
  refine ⟨hasNumbers, summary.1, .swap _ _ _, summary.2.1 _ (.swap _ _ _), changed.mpr ?_,
    .head _, summary.2.2.2 _ (.head _)⟩
  decide

end Feature

end RecordIndex
