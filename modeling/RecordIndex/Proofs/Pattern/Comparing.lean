import RecordIndex.Pattern.Verdict
import RecordIndex.Proofs.Key.Order
import RecordIndex.Proofs.Value.Leaves

namespace RecordIndex

/-!
# Comparing values

A comparison matches only values of the kind of its bound.  Where it ends a
scan, the order of the leaves is the order that it compares by, so nothing
behind matches.
-/

namespace Value

/-- The leaf of the first value comes before the leaf of the second one. -/
def Precedes (first second : Value) : Prop :=
  ∃ part part', first.leafPart? = some part ∧ second.leafPart? = some part' ∧
    compare part.encode part'.encode = .lt

/-- The value has a leaf: it is a scalar, and it is there. -/
def HasLeaf (value : Value) : Prop :=
  value.isUndefined = false ∧ value.isContainer = false

theorem leafPart?_of_isNaN {n : Number} (isNaN : n.isNaN = true) :
    (Value.number n).leafPart? = some (.text "@NaN") := by
  have infinite : n.isFinite = false :=
    decide_eq_false (Nat.not_lt.mpr (Nat.le_of_lt (of_decide_eq_true isNaN)))
  rw [leafPart?, if_pos isNaN, tag?, infinite, numberTag, if_pos isNaN]
  rfl

theorem leafPart?_isSome {value : Value} (hasLeaf : value.HasLeaf) :
    ∃ part, value.leafPart? = some part := by
  cases value with
  | undefined => cases hasLeaf.1
  | array items => cases hasLeaf.2
  | object fields => cases hasLeaf.2
  | number n =>
      cases isNaN : n.isNaN with
      | true => exact ⟨_, leafPart?_of_isNaN isNaN⟩
      | false =>
          refine ⟨.number n, ?_⟩
          rw [leafPart?, isNaN]
          rfl
  | _ => exact ⟨_, rfl⟩

/-! ## Comparable values -/

/-- Values that compare have leaves. -/
theorem hasLeaf_of_compare? {value bound : Value} {order : Ordering}
    (compared : value.compare? bound = some order) : value.HasLeaf := by
  cases value with
  | number n => exact ⟨rfl, rfl⟩
  | string text => exact ⟨rfl, rfl⟩
  | date millis => exact ⟨rfl, rfl⟩
  | bool value => exact ⟨rfl, rfl⟩
  | _ => cases compared

/-- Only numbers compare with a number, and they do so by rank. -/
theorem compare?_number {value : Value} {bound : Number} {order : Ordering}
    (compared : value.compare? (.number bound) = some order) :
    ∃ n, value = .number n ∧ n.isNaN = false ∧ compare n.rank bound.rank = order := by
  cases value with
  | number n =>
      have compared : n.compare? bound = some order := compared
      unfold Number.compare? at compared
      cases isNaN : n.isNaN with
      | true =>
          rw [isNaN] at compared
          cases compared
      | false =>
          rw [isNaN, Bool.false_or] at compared
          split at compared
          · cases compared
          · exact ⟨n, rfl, isNaN, Option.some.inj compared⟩
  | _ => cases compared

/-- Only strings compare with a string. -/
theorem compare?_string {value : Value} {bound : String} {order : Ordering}
    (compared : value.compare? (.string bound) = some order) :
    ∃ text, value = .string text ∧ compare text bound = order := by
  cases value with
  | string text => exact ⟨text, rfl, Option.some.inj compared⟩
  | _ => cases compared

/-- Numbers are scanned in their order. -/
theorem compare_of_precedes_number {a b : Number} (isNumber : a.isNaN = false)
    (isNumber' : b.isNaN = false) (precedes : (Value.number a).Precedes (.number b)) :
    compare a.rank b.rank = .lt := by
  rcases precedes with ⟨part, part', isPart, isPart', before⟩
  rw [leafPart?, isNumber] at isPart
  rw [leafPart?, isNumber'] at isPart'
  cases isPart
  cases isPart'
  rw [← KeyPart.compare_number]
  exact before

/-- Strings are scanned in their order. -/
theorem compare_of_precedes_string {text text' : String}
    (precedes : (Value.string text).Precedes (.string text')) : compare text text' = .lt := by
  rcases precedes with ⟨part, part', isPart, isPart', before⟩
  cases isPart
  cases isPart'
  cases order : compare text text' with
  | lt => rfl
  | eq =>
      rw [Std.LawfulEqCmp.eq_of_compare order, Rows.compare_self] at before
      cases before
  | gt =>
      have behind := KeyPart.compare_text (Std.OrientedCmp.lt_of_gt order) [] []
      rw [List.append_nil, List.append_nil] at behind
      rw [Std.OrientedCmp.gt_of_lt behind] at before
      cases before

/-- Of two numbers or of two strings, the first one is not the larger one. -/
structure NotBehind (first second : Value) : Prop where
  numbers : forall a b : Number, first = .number a -> second = .number b -> a.isNaN = false ->
    b.isNaN = false -> a.rank ≤ b.rank
  texts : forall text text' : String, first = .string text -> second = .string text' ->
    (compare text text').isLE = true

/-- Values are compared in the order of their leaves. -/
theorem Precedes.notBehind {first second : Value} (precedes : first.Precedes second) :
    first.NotBehind second where
  numbers := by
    rintro a b rfl rfl isNumber isNumber'
    exact Int.le_of_lt
      (Int.compare_eq_lt.mp (compare_of_precedes_number isNumber isNumber' precedes))
  texts := by
    rintro text text' rfl rfl
    rw [compare_of_precedes_string precedes]
    rfl

/-! ## Equal values -/

theorem rank_eq_of_equals {a b : Number} (equal : a.equals b = true) :
    a.isNaN = false ∧ b.isNaN = false ∧ a.rank = b.rank :=
  Number.equals_iff.mp equal

/-- Equal values have one leaf, and they have it both or neither. -/
theorem leaf_of_same {first second : Value} (equal : (first == second) = true) :
    (first.HasLeaf ↔ second.HasLeaf) ∧
      first.leafPart?.map KeyPart.encode = second.leafPart?.map KeyPart.encode := by
  have equal : same first second = true := equal
  cases first with
  | number a =>
      cases second with
      | number b =>
          refine ⟨⟨fun _ => ⟨rfl, rfl⟩, fun _ => ⟨rfl, rfl⟩⟩, ?_⟩
          rcases Bool.or_eq_true_iff.mp equal with equal | noNumbers
          · rcases rank_eq_of_equals equal with ⟨isNumber, isNumber', ranks⟩
            rw [leafPart?, leafPart?, isNumber, isNumber']
            exact congrArg some (KeyPart.encode_eq_of_rank_eq ranks)
          · rcases Bool.and_eq_true_iff.mp noNumbers with ⟨isNaN, isNaN'⟩
            rw [leafPart?_of_isNaN isNaN, leafPart?_of_isNaN isNaN']
      | _ => cases equal
  | array items =>
      cases second with
      | array items' => exact ⟨.rfl, rfl⟩
      | _ => cases equal
  | object fields =>
      cases second with
      | object fields' => exact ⟨.rfl, rfl⟩
      | _ => cases equal
  | regExp source flags =>
      cases second with
      | regExp source' flags' =>
          rcases Bool.and_eq_true_iff.mp equal with ⟨sources, allFlags⟩
          cases eq_of_beq sources
          cases eq_of_beq allFlags
          exact ⟨.rfl, rfl⟩
      | _ => cases equal
  | undefined =>
      cases second with
      | undefined => exact ⟨.rfl, rfl⟩
      | _ => cases equal
  | null =>
      cases second with
      | null => exact ⟨.rfl, rfl⟩
      | _ => cases equal
  | _ =>
      cases second
      all_goals first
        | cases equal
        | cases eq_of_beq equal
          exact ⟨.rfl, rfl⟩

end Value

/-! ## Tests -/

namespace Verdict

theorem ofBool_eq_matched {passes : Bool} : ofBool passes = .matched ↔ passes = true := by
  cases passes with
  | false => exact ⟨nofun, nofun⟩
  | true => exact ⟨fun _ => rfl, fun _ => rfl⟩

theorem ofBool_ne_done (passes : Bool) : ofBool passes ≠ .done := by
  cases passes with
  | false => exact nofun
  | true => exact nofun

end Verdict

namespace Operator

variable {value low high bound : Value} {admits : Ordering -> Bool}

theorem lower_eq_matched (matched : lower value bound admits = .matched) :
    ∃ order, value.compare? bound = some order ∧ admits order = true := by
  unfold lower at matched
  split at matched
  · rename_i order compared
    exact ⟨order, compared, Verdict.ofBool_eq_matched.mp matched⟩
  · cases matched

theorem lower_ne_done : lower value bound admits ≠ .done := by
  unfold lower
  split
  · exact Verdict.ofBool_ne_done _
  · exact nofun

theorem upper_eq_matched (matched : upper value bound admits = .matched) :
    ∃ order, value.compare? bound = some order ∧ admits order = true := by
  unfold upper at matched
  split at matched
  · cases matched
  · rename_i order compared
    split at matched
    · rename_i admitted
      exact ⟨order, compared, admitted⟩
    · split at matched
      all_goals cases matched

/-- Only behind a number or a string is a scan done. -/
theorem upper_eq_done (done : upper value bound admits = .done) :
    ∃ order, value.compare? bound = some order ∧ admits order = false ∧
      ((∃ n, bound = .number n) ∨ ∃ text, bound = .string text) := by
  unfold upper at done
  split at done
  · cases done
  · rename_i order compared
    split at done
    · cases done
    · rename_i refused
      refine ⟨order, compared, Bool.eq_false_iff.mpr refused, ?_⟩
      split at done
      · exact .inl ⟨_, rfl⟩
      · exact .inr ⟨_, rfl⟩
      · cases done

/-- What is not behind something admitted is admitted. -/
theorem admits_of_isLE {Element : Type} [Ord Element] [Std.TransOrd Element]
    {first second limit : Element} (less : admits .lt = true) (greater : admits .gt = false)
    (notBehind : (compare first second).isLE = true)
    (admitted : admits (compare second limit) = true) : admits (compare first limit) = true := by
  cases order : compare second limit with
  | lt =>
      rw [Std.TransCmp.lt_of_isLE_of_lt notBehind order]
      exact less
  | eq =>
      rw [order] at admitted
      rw [← Std.TransCmp.congr_right order]
      cases order' : compare first second with
      | lt => exact less
      | eq => exact admitted
      | gt =>
          rw [order'] at notBehind
          cases notBehind
  | gt =>
      rw [order, greater] at admitted
      cases admitted

/-- Behind an upper bound, nothing that is not smaller is within it. -/
theorem upper_ne_matched_of_done (less : admits .lt = true) (greater : admits .gt = false)
    {second : Value} (notBehind : value.NotBehind second)
    (done : upper value bound admits = .done) : upper second bound admits ≠ .matched := by
  intro matched
  rcases upper_eq_done done with ⟨order, compared, refused, kind⟩
  rcases upper_eq_matched matched with ⟨order', compared', admitted⟩
  rcases kind with ⟨n, rfl⟩ | ⟨text, rfl⟩
  · rcases Value.compare?_number compared with ⟨a, rfl, isNumber, rfl⟩
    rcases Value.compare?_number compared' with ⟨b, rfl, isNumber', rfl⟩
    have ranks := notBehind.numbers a b rfl rfl isNumber isNumber'
    rw [admits_of_isLE less greater (Int.isLE_compare.mpr ranks) admitted] at refused
    cases refused
  · rcases Value.compare?_string compared with ⟨a, rfl, rfl⟩
    rcases Value.compare?_string compared' with ⟨b, rfl, rfl⟩
    rw [admits_of_isLE less greater (notBehind.texts a b rfl rfl) admitted] at refused
    cases refused

theorem interval_eq_matched (matched : interval value low high = .matched) :
    lower value low Ordering.isGE = .matched ∧ upper value high Ordering.isLE = .matched := by
  unfold interval at matched
  split at matched
  · rename_i isLower
    exact ⟨isLower, matched⟩
  · rename_i notLower
    exact absurd matched notLower

theorem interval_eq_done (done : interval value low high = .done) :
    upper value high Ordering.isLE = .done := by
  unfold interval at done
  split at done
  · exact done
  · exact absurd done lower_ne_done

theorem finite?_eq_some {n : Number} (isFinite : finite? value = some n) :
    value = .number n ∧ n.isNaN = false := by
  rcases Option.filter_eq_some_iff.mp isFinite with ⟨isNumber, finite⟩
  cases value with
  | number m =>
      cases isNumber
      exact ⟨rfl, Value.isNaN_of_isFinite finite⟩
  | _ => cases isNumber

end Operator

end RecordIndex
