import RecordIndex.Feature
import RecordIndex.Proofs.Value.Stored

namespace RecordIndex

/-!
# What a feature has learned

A feature that is not fixed learns from the values that are found at its path,
one after another.  What it knows in the end sums up all of them: the least and
the greatest number, and every category in the order in which it was first seen.
So the order of the values matters only to the order of the categories, and to
find a value again changes nothing.
-/

/-! ## Numbers on one side -/

namespace Number

variable {l m n : Number} {side : Ordering}

theorem compare?_of_numbers (isNumber : m.isNaN = false) (isNumber' : n.isNaN = false) :
    m.compare? n = some (compare m.rank n.rank) := by
  simp [compare?, isNumber, isNumber']

theorem compare?_self (isNumber : n.isNaN = false) : n.compare? n = some .eq := by
  simp [compare?_of_numbers isNumber isNumber]

/-- Only numbers are compared. -/
theorem isNaN_of_compare? {order : Ordering} (compared : m.compare? n = some order) :
    m.isNaN = false ∧ n.isNaN = false := by
  unfold compare? at compared
  split at compared
  · cases compared
  · rename_i areNumbers
    exact Bool.or_eq_false_iff.mp ((Bool.not_eq_true _).mp areNumbers)

theorem compare_of_compare? {order : Ordering} (compared : m.compare? n = some order) :
    compare m.rank n.rank = order := by
  rcases isNaN_of_compare? compared with ⟨isNumber, isNumber'⟩
  exact Option.some.inj ((compare?_of_numbers isNumber isNumber').symm.trans compared)

theorem equals_of_compare? (compared : m.compare? n = some .eq) : n.equals m = true := by
  rcases isNaN_of_compare? compared with ⟨isNumber, isNumber'⟩
  have sameRank := Int.compare_eq_eq.mp (compare_of_compare? compared)
  simp [equals, compare?_of_numbers isNumber' isNumber, sameRank]

/-- What lies beyond a number lies beyond all that this does not lie behind. -/
theorem compare?_trans (beyond : l.compare? m = some side)
    (notBehind : m.compare? n = some side ∨ m.compare? n = some .eq) :
    l.compare? n = some side := by
  have isNumber : n.isNaN = false := by
    rcases notBehind with compared | compared
    · exact (isNaN_of_compare? compared).2
    · exact (isNaN_of_compare? compared).2
  rw [compare?_of_numbers (isNaN_of_compare? beyond).1 isNumber]
  have first := compare_of_compare? beyond
  have second := notBehind.imp compare_of_compare? compare_of_compare?
  cases side <;> simp only [Int.compare_eq_lt, Int.compare_eq_gt, Int.compare_eq_eq,
    Option.some.injEq] at first second ⊢ <;> omega

/-- A number that does not lie beyond another is not passed by it. -/
theorem compare?_of_not_beyond (isNumber : m.isNaN = false) (isNumber' : n.isNaN = false)
    (oneSided : side ≠ .eq) :
    n.compare? m ≠ some side ↔ m.compare? n = some side ∨ m.compare? n = some .eq := by
  rw [compare?_of_numbers isNumber isNumber', compare?_of_numbers isNumber' isNumber]
  cases side with
  | eq => exact absurd rfl oneSided
  | lt => simp only [ne_eq, Option.some.injEq, Int.compare_eq_lt, Int.compare_eq_eq]; omega
  | gt => simp only [ne_eq, Option.some.injEq, Int.compare_eq_gt, Int.compare_eq_eq]; omega

end Number

namespace FeatureKind

/-! ## Bounds -/

/-- The bound is one of the candidates, and each of them is equal to it or lies
behind it as seen from this side.  Without candidates there is no bound. -/
def IsOutermost (side : Ordering) (candidates : List Number) (bound : Option Number) : Prop :=
  match bound with
  | none => candidates = []
  | some bound => bound ∈ candidates ∧
      ∀ n ∈ candidates, bound.compare? n = some side ∨ bound.compare? n = some .eq

theorem isOutermost_toList {bound : Option Number} (areNumbers : ∀ n ∈ bound, n.isNaN = false)
    (side : Ordering) : IsOutermost side bound.toList bound := by
  cases bound with
  | none => rfl
  | some bound => simp [IsOutermost, Number.compare?_self (areNumbers bound rfl)]

/-- A bound that takes in one more number is the outermost with that. -/
theorem IsOutermost.widen {side : Ordering} {candidates : List Number} {bound : Option Number}
    (outermost : IsOutermost side candidates bound) {n : Number} (isNumber : n.isNaN = false)
    (oneSided : side ≠ .eq) :
    IsOutermost side (candidates ++ [n]) (widen side n bound).1 := by
  have ownPlace := Number.compare?_self isNumber
  cases bound with
  | none =>
      have noCandidate : candidates = [] := outermost
      simp [FeatureKind.widen, IsOutermost, noCandidate, ownPlace]
  | some bound =>
      rcases outermost with ⟨isCandidate, behind⟩
      have isNumber' : bound.isNaN = false := by
        rcases behind bound isCandidate with compared | compared
        · exact (Number.isNaN_of_compare? compared).1
        · exact (Number.isNaN_of_compare? compared).1
      unfold FeatureKind.widen
      split
      · rename_i moves
        have beyond : n.compare? bound = some side := by simpa using moves
        refine ⟨by simp, fun m member => ?_⟩
        rcases List.mem_append.mp member with known | new
        · exact .inl (Number.compare?_trans beyond (behind m known))
        · rw [List.mem_singleton.mp new]
          exact .inr ownPlace
      · rename_i stays
        have notBeyond : n.compare? bound ≠ some side := by simpa using stays
        refine ⟨List.mem_append_left _ isCandidate, fun m member => ?_⟩
        rcases List.mem_append.mp member with known | new
        · exact behind m known
        · rw [List.mem_singleton.mp new]
          exact (Number.compare?_of_not_beyond isNumber' isNumber oneSided).mp notBeyond

/-- The outermost of the same candidates are equal as numbers. -/
theorem IsOutermost.unique {side : Ordering} {candidates others : List Number}
    {bound bound' : Option Number} (outermost : IsOutermost side candidates bound)
    (outermost' : IsOutermost side others bound')
    (same : forall n, n ∈ candidates ↔ n ∈ others) (oneSided : side ≠ .eq) :
    Option.Rel (fun m n => m.equals n = true) bound bound' := by
  cases bound with
  | none =>
      have noCandidate : candidates = [] := outermost
      cases bound' with
      | none => exact .none
      | some bound' =>
          have member := (same bound').mpr outermost'.1
          rw [noCandidate] at member
          cases member
  | some bound =>
      cases bound' with
      | none =>
          have noCandidate : others = [] := outermost'
          have member := (same bound).mp outermost.1
          rw [noCandidate] at member
          cases member
      | some bound' =>
          have forward := outermost.2 bound' ((same bound').mpr outermost'.1)
          have back := outermost'.2 bound ((same bound).mp outermost.1)
          have areNumbers := forward.elim Number.isNaN_of_compare? Number.isNaN_of_compare?
          have notBeyond :=
            (Number.compare?_of_not_beyond areNumbers.1 areNumbers.2 oneSided).mpr forward
          exact .some (Number.equals_of_compare? (back.resolve_left notBeyond))

/-- A candidate does not move the bound. -/
theorem IsOutermost.unmoved {side : Ordering} {candidates : List Number} {bound : Option Number}
    (outermost : IsOutermost side candidates bound) {n : Number} (isCandidate : n ∈ candidates)
    (oneSided : side ≠ .eq) : (FeatureKind.widen side n bound).2 = false := by
  cases bound with
  | none =>
      have noCandidate : candidates = [] := outermost
      rw [noCandidate] at isCandidate
      cases isCandidate
  | some bound =>
      have behind := outermost.2 n isCandidate
      have areNumbers := behind.elim Number.isNaN_of_compare? Number.isNaN_of_compare?
      have notBeyond :=
        (Number.compare?_of_not_beyond areNumbers.1 areNumbers.2 oneSided).mpr behind
      simp [FeatureKind.widen, notBeyond]

/-! ## Categories -/

/-- The categories that were seen and not known before, each of them once, as
they were first seen. -/
def newCategories (known seen : List String) : List String :=
  (seen.removeAll known).eraseDups

theorem mem_append_newCategories (known seen : List String) (category : String) :
    category ∈ known ++ newCategories known seen ↔ category ∈ known ∨ category ∈ seen := by
  by_cases isKnown : category ∈ known <;> simp [newCategories, List.removeAll, isKnown]

/-- A category that is seen comes last if it is new. -/
theorem extend_newCategories (known seen : List String) (category : String) :
    (extend category (known ++ newCategories known seen)).1 =
      known ++ newCategories known (seen ++ [category]) := by
  have isMember := mem_append_newCategories known seen category
  have appended : newCategories known (seen ++ [category]) = newCategories known seen ++
      (([category].removeAll known).removeAll (seen.removeAll known)).eraseDups := by
    simp [newCategories, List.removeAll, List.eraseDups_append]
  unfold extend
  rw [appended, ← List.append_assoc]
  by_cases isKnown : category ∈ known
  · simp [List.removeAll, isKnown]
  · by_cases isSeen : category ∈ seen
    · rw [if_pos (List.contains_iff_mem.mpr (isMember.mpr (.inr isSeen)))]
      simp [List.removeAll, isKnown, isSeen]
    · rw [if_neg fun both => (isMember.mp (List.contains_iff_mem.mp both)).elim isKnown isSeen]
      simp [List.removeAll, isKnown, isSeen, List.eraseDups_cons]

theorem nodup_extend {categories : List String} (nodup : categories.Nodup) (category : String) :
    (extend category categories).1.Nodup := by
  unfold extend
  split
  · exact nodup
  · rename_i isNew
    refine List.nodup_append.mpr ⟨nodup, by simp, ?_⟩
    intro known isKnown other isOther same
    apply isNew
    rw [← List.mem_singleton.mp isOther, ← same]
    exact List.contains_iff_mem.mpr isKnown

/-! ## Whether something changed -/

/-- Whether a bound moves is told truly. -/
theorem widen_changed_iff {beyond : Ordering} (n : Number) (bound : Option Number)
    (oneSided : beyond ≠ .eq) :
    (widen beyond n bound).2 = true ↔ (widen beyond n bound).1 ≠ bound := by
  unfold widen
  split
  · rename_i moves
    refine ⟨?_, fun _ => rfl⟩
    rintro - rfl
    have isBeyond : n.compare? n = some beyond := by simpa using moves
    rw [Number.compare?_self (Number.isNaN_of_compare? isBeyond).1] at isBeyond
    exact oneSided (Option.some.inj isBeyond).symm
  · simp

/-- Whether a category is new is told truly. -/
theorem extend_changed_iff (category : String) (categories : List String) :
    (extend category categories).2 = true ↔ (extend category categories).1 ≠ categories := by
  unfold extend
  split <;> simp

/-- Whether a feature changes is told truly. -/
theorem learn_changed_iff (found : Value) (kind : FeatureKind) :
    (kind.learn found).2 = true ↔ (kind.learn found).1 ≠ kind := by
  unfold learn
  split
  · rename_i low high
    split
    · rename_i n isNumber
      have lowMoves : (widen .lt n low).2 = true ↔ (widen .lt n low).1 ≠ low :=
        widen_changed_iff n low nofun
      have highMoves : (widen .gt n high).2 = true ↔ (widen .gt n high).1 ≠ high :=
        widen_changed_iff n high nofun
      simp only [Bool.or_eq_true, lowMoves, highMoves, ne_eq, numeric.injEq, and_true,
        Classical.not_and_iff_not_or_not]
    · simp
  · rename_i categories
    split
    · rename_i category isCategory
      simp only [extend_changed_iff, ne_eq, categorical.injEq, and_true]
    · simp
  · simp

/-- Nothing is learned. -/
def isFixed : FeatureKind -> Bool
  | .numeric _ _ fixed => fixed
  | .categorical _ fixed => fixed

theorem learn_of_isFixed {kind : FeatureKind} (isFixed : kind.isFixed = true) (found : Value) :
    kind.learn found = (kind, false) := by
  cases kind with
  | numeric low high fixed =>
      cases isFixed
      rfl
  | categorical categories fixed =>
      cases isFixed
      rfl

end FeatureKind

namespace Feature

theorem learn_changed_iff (record : Value) (feature : Feature) :
    (feature.learn record).2 = true ↔ (feature.learn record).1 ≠ feature := by
  unfold learn
  cases record.getPath? feature.path with
  | none => simp
  | some found =>
      rcases feature with ⟨path, kind⟩
      simp only [FeatureKind.learn_changed_iff, ne_eq, mk.injEq, true_and]

/-- Whether any of the features changes is told truly. -/
theorem learnAll_changed_iff (record : Value) (features : List Feature) :
    (learnAll record features).2 = true ↔ (learnAll record features).1 ≠ features := by
  induction features with
  | nil => simp [learnAll]
  | cons feature rest ih =>
      simp only [learnAll, Bool.or_eq_true, learn_changed_iff, ih, ne_eq, List.cons.injEq,
        Classical.not_and_iff_not_or_not]

theorem learnAll_of_unchanged {record : Value} {features : List Feature}
    (unchanged : (learnAll record features).2 = false) :
    (learnAll record features).1 = features := by
  apply Classical.byContradiction
  intro different
  rw [(learnAll_changed_iff record features).mpr different] at unchanged
  cases unchanged

end Feature

namespace FeatureKind

/-! ## What many values come to -/

/-- What was found is learned piece by piece. -/
def learnEach (found : List Value) (kind : FeatureKind) : FeatureKind :=
  found.foldl (fun kind value => (kind.learn value).1) kind

/-- What a feature knows after it has taken in all that was found, by what it
knew before. -/
inductive IsSummary (found : List Value) : FeatureKind -> FeatureKind -> Prop where
  | numeric {low high least greatest : Option Number}
      (isLeast : IsOutermost .lt (low.toList ++ found.filterMap finiteNumber?) least)
      (isGreatest : IsOutermost .gt (high.toList ++ found.filterMap finiteNumber?) greatest) :
      IsSummary found (.numeric low high false) (.numeric least greatest false)
  | categorical {known categories : List String}
      (isExtended : categories =
        known ++ newCategories known (found.filterMap Value.matchText?))
      (staysDistinct : known.Nodup -> categories.Nodup) :
      IsSummary found (.categorical known false) (.categorical categories false)
  | fixed {kind : FeatureKind} (isFixed : kind.isFixed = true) : IsSummary found kind kind

/-- The bounds of a feature are numbers. -/
def HasNumbers : FeatureKind -> Prop
  | .numeric low high _ => (∀ n ∈ low, n.isNaN = false) ∧ ∀ n ∈ high, n.isNaN = false
  | .categorical _ _ => True

theorem isSummary_nil {kind : FeatureKind} (hasNumbers : kind.HasNumbers) :
    IsSummary [] kind kind := by
  cases isFixed : kind.isFixed with
  | true => exact .fixed isFixed
  | false =>
      cases kind with
      | numeric low high fixed =>
          cases isFixed
          apply IsSummary.numeric
          · simpa using isOutermost_toList hasNumbers.1 .lt
          · simpa using isOutermost_toList hasNumbers.2 .gt
      | categorical known fixed =>
          cases isFixed
          exact .categorical (by simp [newCategories, List.removeAll]) id

theorem isNaN_of_finiteNumber? {found : Value} {n : Number}
    (isNumber : finiteNumber? found = some n) : n.isNaN = false :=
  Value.isNaN_of_isFinite (Option.filter_eq_some_iff.mp isNumber).2

variable {found : List Value} {before after : FeatureKind}

/-- One more value is learned. -/
theorem IsSummary.learn (summary : IsSummary found before after) (value : Value) :
    IsSummary (found ++ [value]) before (after.learn value).1 := by
  cases summary with
  | fixed isFixed =>
      rw [learn_of_isFixed isFixed]
      exact .fixed isFixed
  | numeric isLeast isGreatest =>
      cases isNumber : finiteNumber? value with
      | none =>
          simp only [FeatureKind.learn, isNumber]
          apply IsSummary.numeric
          · simpa [isNumber] using isLeast
          · simpa [isNumber] using isGreatest
      | some n =>
          have notNaN := isNaN_of_finiteNumber? isNumber
          simp only [FeatureKind.learn, isNumber]
          apply IsSummary.numeric
          · simpa [isNumber] using isLeast.widen notNaN nofun
          · simpa [isNumber] using isGreatest.widen notNaN nofun
  | categorical isExtended staysDistinct =>
      cases isCategory : value.matchText? with
      | none =>
          simp only [FeatureKind.learn, isCategory]
          exact .categorical (by simpa [isCategory] using isExtended) staysDistinct
      | some category =>
          simp only [FeatureKind.learn, isCategory]
          apply IsSummary.categorical
          · rw [isExtended, extend_newCategories]
            simp [isCategory]
          · exact fun distinct => nodup_extend (staysDistinct distinct) category

/-- All of what was found is learned. -/
theorem IsSummary.learnEach (summary : IsSummary found before after) (more : List Value) :
    IsSummary (found ++ more) before (after.learnEach more) := by
  induction more generalizing found after with
  | nil =>
      rw [List.append_nil]
      exact summary
  | cons value rest ih =>
      rw [List.append_cons]
      exact ih (summary.learn value)

/-- What was found is not learned again when it is found again. -/
theorem IsSummary.unchanged (summary : IsSummary found before after) {value : Value}
    (isFound : value ∈ found) : (after.learn value).2 = false := by
  cases summary with
  | fixed isFixed => rw [learn_of_isFixed isFixed]
  | @numeric low high _ _ isLeast isGreatest =>
      cases isNumber : finiteNumber? value with
      | none => simp [FeatureKind.learn, isNumber]
      | some n =>
          have isCandidate (bound : Option Number) :
              n ∈ bound.toList ++ found.filterMap finiteNumber? :=
            List.mem_append_right _ (List.mem_filterMap.mpr ⟨value, isFound, isNumber⟩)
          simp [FeatureKind.learn, isNumber, isLeast.unmoved (isCandidate low) nofun,
            isGreatest.unmoved (isCandidate high) nofun]
  | @categorical known _ isExtended _ =>
      cases isCategory : value.matchText? with
      | none => simp [FeatureKind.learn, isCategory]
      | some category =>
          have isSeen : category ∈ found.filterMap Value.matchText? :=
            List.mem_filterMap.mpr ⟨value, isFound, isCategory⟩
          have isKnown := (mem_append_newCategories known _ category).mpr (.inr isSeen)
          rw [← isExtended] at isKnown
          simp only [FeatureKind.learn, isCategory, extend,
            if_pos (List.contains_iff_mem.mpr isKnown)]

/-! ## The order of the values -/

/-- Kinds that differ only in the signs of zeros and in the order of their
categories. -/
inductive IsAlike : FeatureKind -> FeatureKind -> Prop where
  | numeric {low high low' high' : Option Number} {fixed : Bool}
      (sameLow : Option.Rel (fun m n => m.equals n = true) low low')
      (sameHigh : Option.Rel (fun m n => m.equals n = true) high high') :
      IsAlike (.numeric low high fixed) (.numeric low' high' fixed)
  | categorical {categories categories' : List String} {fixed : Bool}
      (same : forall category, category ∈ categories ↔ category ∈ categories') :
      IsAlike (.categorical categories fixed) (.categorical categories' fixed)

theorem isAlike_self {kind : FeatureKind} (hasNumbers : kind.HasNumbers) : kind.IsAlike kind := by
  have equals_self {bound : Option Number} (areNumbers : ∀ n ∈ bound, n.isNaN = false) :
      Option.Rel (fun m n => m.equals n = true) bound bound := by
    cases bound with
    | none => exact .none
    | some bound =>
        exact .some (Number.equals_of_compare? (Number.compare?_self (areNumbers bound rfl)))
  cases kind with
  | numeric low high fixed => exact .numeric (equals_self hasNumbers.1) (equals_self hasNumbers.2)
  | categorical categories fixed => exact .categorical fun _ => Iff.rfl

/-- What was learned does not depend on the order in which it was found. -/
theorem IsSummary.alike (hasNumbers : before.HasNumbers) (summary : IsSummary found before after)
    {others : List Value} {after' : FeatureKind} (summary' : IsSummary others before after')
    (perm : found.Perm others) : after.IsAlike after' := by
  cases summary with
  | fixed isFixed =>
      cases summary' with
      | fixed _ => exact isAlike_self hasNumbers
      | numeric _ _ => cases isFixed
      | categorical _ _ => cases isFixed
  | @numeric low high _ _ isLeast isGreatest =>
      cases summary' with
      | fixed isFixed => cases isFixed
      | numeric isLeast' isGreatest' =>
          have sameNumbers (bound : Option Number) (n : Number) :
              n ∈ bound.toList ++ found.filterMap finiteNumber? ↔
                n ∈ bound.toList ++ others.filterMap finiteNumber? :=
            ((perm.filterMap finiteNumber?).append_left bound.toList).mem_iff
          exact .numeric (isLeast.unique isLeast' (sameNumbers low) nofun)
            (isGreatest.unique isGreatest' (sameNumbers high) nofun)
  | @categorical known _ isExtended _ =>
      cases summary' with
      | fixed isFixed => cases isFixed
      | categorical isExtended' _ =>
          apply IsAlike.categorical
          intro category
          rw [isExtended, isExtended', mem_append_newCategories, mem_append_newCategories,
            (perm.filterMap Value.matchText?).mem_iff]

end FeatureKind

end RecordIndex
