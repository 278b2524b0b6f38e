import RecordIndex.Proofs.Key.Order

namespace RecordIndex

/-!
# The order of parts

What the order of keys means, said without their bytes.  Parts have an order of
their own: nothing, then the truth values, then numbers by how large they are,
then texts, then names along a path.  A key sorts as the list of its parts does,
part by part, and is the beginning of another key exactly when its parts are the
beginning of the other parts.

The size of a number is counted in units of the least positive double.  All
finite doubles are whole in that unit, so that sizes are integers.  The
infinities are given the power of two behind the finite numbers, and what is no
number has its place behind them, which is where its bits are.
-/

namespace Number

/-- The least positive double is two to the power of minus this. -/
def unitPlaces : Nat :=
  1074

/-- A number as a multiple of the least positive double. -/
def units (n : Number) : Int :=
  let size := n.significand * Nat.pow 2 (n.exponent + unitPlaces).toNat
  if n.isNegative then -(size : Int) else size

/-- The units of a magnitude: below the least normal number the magnitude
itself, and from there on twice as many for every step of the exponent. -/
def magnitudeUnits (magnitude : Nat) : Nat :=
  if magnitude < leadingBit then magnitude
  else (magnitude % leadingBit + leadingBit) * Nat.pow 2 (magnitude / leadingBit - 1)

theorem units_eq (n : Number) :
    n.units = if n.isNegative then -(magnitudeUnits n.magnitude : Int)
      else magnitudeUnits n.magnitude := by
  have size : n.significand * Nat.pow 2 (n.exponent + unitPlaces).toNat =
      magnitudeUnits n.magnitude := by
    unfold significand exponent magnitudeUnits unitPlaces
    split
    · exact Nat.mul_one n.magnitude
    · rename_i large
      have normal : 1 ≤ n.magnitude / leadingBit :=
        (Nat.le_div_iff_mul_le (by decide)).mpr (by omega)
      have shift : ((n.magnitude / leadingBit : Nat) - 1075 + (1074 : Nat) : Int).toNat =
          n.magnitude / leadingBit - 1 := by omega
      rw [shift]
  unfold units
  rw [size]

/-- The units of a normal number lie between two powers. -/
theorem magnitudeUnits_bounds {magnitude : Nat} (normal : leadingBit ≤ magnitude) :
    leadingBit * Nat.pow 2 (magnitude / leadingBit - 1) ≤ magnitudeUnits magnitude ∧
      magnitudeUnits magnitude < leadingBit * Nat.pow 2 (magnitude / leadingBit) := by
  have step : 1 ≤ magnitude / leadingBit :=
    (Nat.le_div_iff_mul_le (by decide)).mpr (by omega)
  have fraction : magnitude % leadingBit < leadingBit := Nat.mod_lt _ (by decide)
  have doubled : Nat.pow 2 (magnitude / leadingBit) =
      Nat.pow 2 (magnitude / leadingBit - 1) * 2 := by
    have succ := Nat.pow_succ 2 (magnitude / leadingBit - 1)
    rw [Nat.succ_eq_add_one, Nat.sub_add_cancel step] at succ
    exact succ
  have positive : 0 < Nat.pow 2 (magnitude / leadingBit - 1) := Nat.pow_pos (by decide)
  unfold magnitudeUnits
  rw [if_neg (Nat.not_lt_of_le normal), doubled]
  constructor
  · exact Nat.mul_le_mul_right _ (Nat.le_add_left _ _)
  · calc (magnitude % leadingBit + leadingBit) * Nat.pow 2 (magnitude / leadingBit - 1)
        < (leadingBit * 2) * Nat.pow 2 (magnitude / leadingBit - 1) :=
          Nat.mul_lt_mul_of_pos_right (by omega) positive
      _ = leadingBit * (Nat.pow 2 (magnitude / leadingBit - 1) * 2) := by
          rw [Nat.mul_assoc, Nat.mul_comm 2]

/-- A larger magnitude is a larger number. -/
theorem magnitudeUnits_lt {first second : Nat} (less : first < second) :
    magnitudeUnits first < magnitudeUnits second := by
  by_cases normal : leadingBit ≤ first
  · have normal' : leadingBit ≤ second := by omega
    have steps : first / leadingBit ≤ second / leadingBit :=
      Nat.div_le_div_right (Nat.le_of_lt less)
    rcases Nat.lt_or_eq_of_le steps with lower | same
    · have powers : Nat.pow 2 (first / leadingBit) ≤ Nat.pow 2 (second / leadingBit - 1) :=
        Nat.pow_le_pow_right (by decide) (by omega)
      calc magnitudeUnits first
          < leadingBit * Nat.pow 2 (first / leadingBit) := (magnitudeUnits_bounds normal).2
        _ ≤ leadingBit * Nat.pow 2 (second / leadingBit - 1) := Nat.mul_le_mul_left _ powers
        _ ≤ magnitudeUnits second := (magnitudeUnits_bounds normal').1
    · have parts := Nat.div_add_mod first leadingBit
      have parts' := Nat.div_add_mod second leadingBit
      rw [same] at parts
      have positive : 0 < Nat.pow 2 (second / leadingBit - 1) := Nat.pow_pos (by decide)
      unfold magnitudeUnits
      rw [if_neg (Nat.not_lt_of_le normal), if_neg (Nat.not_lt_of_le normal'), same]
      exact Nat.mul_lt_mul_of_pos_right (by omega) positive
  · have subnormal : magnitudeUnits first = first := if_pos (Nat.lt_of_not_le normal)
    rw [subnormal]
    by_cases normal' : leadingBit ≤ second
    · have positive : 0 < Nat.pow 2 (second / leadingBit - 1) := Nat.pow_pos (by decide)
      calc first < leadingBit := Nat.lt_of_not_le normal
        _ ≤ leadingBit * Nat.pow 2 (second / leadingBit - 1) := Nat.le_mul_of_pos_right _ positive
        _ ≤ magnitudeUnits second := (magnitudeUnits_bounds normal').1
    · rw [magnitudeUnits, if_pos (Nat.lt_of_not_le normal')]
      exact less

theorem magnitudeUnits_zero : magnitudeUnits 0 = 0 := by
  decide

/-- Ranks are in the order of sizes. -/
theorem units_lt_of_rank_lt {a b : Number} (below : a.rank < b.rank) : a.units < b.units := by
  have larger (m : Nat) : m ≤ 0 ∨ magnitudeUnits 0 < magnitudeUnits m := by
    rcases Nat.eq_zero_or_pos m with none | positive
    · exact .inl (Nat.le_of_eq none)
    · exact .inr (magnitudeUnits_lt positive)
  have first := larger a.magnitude
  have second := larger b.magnitude
  rw [units_eq, units_eq]
  unfold rank at below
  rw [magnitudeUnits_zero] at first second
  cases negative : a.isNegative with
  | true =>
      rw [negative] at below
      cases negative' : b.isNegative with
      | true =>
          rw [negative'] at below
          simp only [if_true] at below ⊢
          have sizes := magnitudeUnits_lt (show b.magnitude < a.magnitude by omega)
          omega
      | false =>
          rw [negative'] at below
          simp only [if_true, Bool.false_eq_true, if_false] at below ⊢
          omega
  | false =>
      rw [negative] at below
      cases negative' : b.isNegative with
      | true =>
          rw [negative'] at below
          simp only [if_true, Bool.false_eq_true, if_false] at below
          omega
      | false =>
          rw [negative'] at below
          simp only [Bool.false_eq_true, if_false] at below ⊢
          have sizes := magnitudeUnits_lt (show a.magnitude < b.magnitude by omega)
          omega

theorem units_eq_of_rank_eq {a b : Number} (same : a.rank = b.rank) : a.units = b.units := by
  have magnitudes : a.magnitude = b.magnitude := by
    unfold rank at same
    split at same <;> split at same <;> omega
  by_cases none : b.magnitude = 0
  · -- The zeros have different signs and one size.
    rw [units_eq, units_eq, magnitudes, none, magnitudeUnits_zero]
    split <;> split <;> rfl
  · have signs : a.isNegative = b.isNegative := by
      unfold rank at same
      cases negative : a.isNegative <;> cases negative' : b.isNegative <;>
        simp only [negative, negative', Bool.false_eq_true, if_false, if_true] at same ⊢ <;> omega
    rw [units_eq, units_eq, signs, magnitudes]

/-- Comparing sizes is comparing ranks. -/
theorem compare_units (a b : Number) : compare a.units b.units = compare a.rank b.rank := by
  cases order : compare a.rank b.rank with
  | lt => exact Int.compare_eq_lt.mpr (units_lt_of_rank_lt (Int.compare_eq_lt.mp order))
  | gt => exact Int.compare_eq_gt.mpr (units_lt_of_rank_lt (Int.compare_eq_gt.mp order))
  | eq => exact Int.compare_eq_eq.mpr (units_eq_of_rank_eq (Int.compare_eq_eq.mp order))

/-! ## Numbers that are kept as one -/

/-- Numbers are kept as one when they are one number or equal ones. -/
theorem keyed_eq_iff {a b : Number} : a.keyed = b.keyed ↔ a = b ∨ a.equals b = true := by
  constructor
  · intro same
    have magnitudes : a.magnitude = b.magnitude := by
      rw [← magnitude_keyed a, same, magnitude_keyed]
    by_cases none : a.magnitude = 0
    · have none' : b.magnitude = 0 := magnitudes ▸ none
      have ranks : a.rank = b.rank :=
        ((rank_eq_zero_iff a).mpr none).trans ((rank_eq_zero_iff b).mpr none').symm
      exact .inr (equals_iff.mpr
        ⟨isNaN_of_magnitude_eq_zero none, isNaN_of_magnitude_eq_zero none', ranks⟩)
    · have none' : b.magnitude ≠ 0 := magnitudes ▸ none
      rw [keyed, if_neg none, keyed, if_neg none'] at same
      exact .inl same
  · rintro (rfl | equal)
    · rfl
    · have sameKey := KeyPart.encode_eq_of_rank_eq (equals_iff.mp equal).2.2
      exact KeyPart.number.inj (KeyPart.encode_inj.mp sameKey)

end Number

namespace KeyPart

/-! ## Parts that are kept as one -/

/-- The parts are the same, but for zeros of different signs, which are equal
as numbers. -/
def Alike (first second : KeyPart) : Prop :=
  first = second ∨ ∃ a b, first = .number a ∧ second = .number b ∧ a.equals b = true

/-- Parts are kept as one when they are alike. -/
theorem keyed_eq_iff {first second : KeyPart} :
    first.keyed = second.keyed ↔ first.Alike second := by
  constructor
  · intro same
    cases first with
    | number a =>
        cases second with
        | number b =>
            rcases Number.keyed_eq_iff.mp (KeyPart.number.inj same) with rfl | equal
            · exact .inl rfl
            · exact .inr ⟨a, b, rfl, rfl, equal⟩
        | _ => cases same
    | _ =>
        cases second with
        | number b => cases same
        | _ => exact .inl same
  · rintro (rfl | ⟨a, b, rfl, rfl, equal⟩)
    · rfl
    · exact congrArg KeyPart.number (Number.keyed_eq_iff.mpr (.inr equal))

theorem keyed_alike (part : KeyPart) : part.keyed.Alike part :=
  keyed_eq_iff.mp part.keyed_keyed

/-! ## Parts -/

/-- The place of the type of a part among the types.  The truth values have a
place each. -/
def place : KeyPart -> Nat
  | .null => 0
  | .bool false => 1
  | .bool true => 2
  | .number _ => 3
  | .text _ => 4
  | .segment _ => 5

/-- The order of parts of one type.  Numbers are in the order of their sizes, and
texts and names in the order of their UTF-8 bytes. -/
def orderWithin : KeyPart -> KeyPart -> Ordering
  | .number a, .number b => compare a.units b.units
  | .text first, .text second => compare first.toUTF8.toList second.toUTF8.toList
  | .segment first, .segment second => compare first.toUTF8.toList second.toUTF8.toList
  | _, _ => .eq

/-- The order of parts: by type first, and then within the type. -/
def order (first second : KeyPart) : Ordering :=
  (compare first.place second.place).then (first.orderWithin second)

theorem toNat_tag (part : KeyPart) : part.tag.toNat = part.place + 1 := by
  cases part with
  | bool value =>
      cases value with
      | false => rfl
      | true => rfl
  | _ => rfl

theorem compare_tag (first second : KeyPart) :
    compare first.tag second.tag = compare first.place second.place := by
  rw [← compare_toNat, toNat_tag, toNat_tag]
  rcases Nat.lt_trichotomy first.place second.place with below | same | above
  · rw [Nat.compare_eq_lt.mpr below, Nat.compare_eq_lt.mpr (Nat.succ_lt_succ below)]
  · rw [same, Nat.compare_eq_eq.mpr rfl, Nat.compare_eq_eq.mpr rfl]
  · rw [Nat.compare_eq_gt.mpr above, Nat.compare_eq_gt.mpr (Nat.succ_lt_succ above)]

/-- Texts sort as their bytes. -/
theorem compare_textBytes (first second : String) :
    compare (textBytes first) (textBytes second) =
      compare first.toUTF8.toList second.toUTF8.toList := by
  unfold textBytes
  cases order : compare first.toUTF8.toList second.toUTF8.toList with
  | lt => exact compare_escape order [] []
  | eq => rw [Std.LawfulEqCmp.eq_of_compare order, Rows.compare_self]
  | gt => exact Std.OrientedCmp.gt_of_lt (compare_escape (Std.OrientedCmp.lt_of_gt order) [] [])

/-- Within a type, what stands behind the tags decides. -/
theorem compare_payload {first second : KeyPart} (types : first.place = second.place) :
    compare first.payload second.payload = first.orderWithin second := by
  cases first with
  | null =>
      cases second with
      | null => rfl
      | bool value => cases value <;> cases types
      | _ => cases types
  | bool value =>
      cases second with
      | bool value' => rfl
      | _ => cases value <;> cases types
  | number a =>
      cases second with
      | number b => exact (compare_sortableBytes a b).trans (Number.compare_units a b).symm
      | bool value => cases value <;> cases types
      | _ => cases types
  | text content =>
      cases second with
      | text content' => exact compare_textBytes content content'
      | bool value => cases value <;> cases types
      | _ => cases types
  | segment name =>
      cases second with
      | segment name' => exact compare_textBytes name name'
      | bool value => cases value <;> cases types
      | _ => cases types

/-- The bytes of parts are in the order of the parts. -/
theorem compare_encode (first second : KeyPart) :
    compare first.encode second.encode = first.order second := by
  unfold encode order
  rw [Key.compare_cons, compare_tag]
  cases types : compare first.place second.place with
  | lt => rfl
  | eq => exact compare_payload (Nat.compare_eq_eq.mp types)
  | gt => rfl

/-- The first part that differs decides, whatever follows. -/
theorem compare_encode_append (first second : KeyPart) (rest rest' : Key) :
    compare (first.encode ++ rest) (second.encode ++ rest') =
      (first.order second).then (compare rest rest') := by
  rw [← compare_encode]
  cases order : compare first.encode second.encode with
  | lt => exact Key.compare_append_of_lt order (not_prefix_of_lt order) rest rest'
  | eq =>
      rw [Std.LawfulEqCmp.eq_of_compare order]
      exact Key.compare_append_left _ rest rest'
  | gt =>
      have below := Std.OrientedCmp.lt_of_gt order
      exact Std.OrientedCmp.gt_of_lt
        (Key.compare_append_of_lt below (not_prefix_of_lt below) rest' rest)

end KeyPart

namespace Key

/-! ## Keys -/

theorem compare_encode (first second : List KeyPart) :
    compare (encode first) (encode second) = List.compareLex KeyPart.order first second := by
  induction first generalizing second with
  | nil =>
      cases second with
      | nil => rfl
      | cons part rest => rfl
  | cons part rest ih =>
      cases second with
      | nil => rfl
      | cons part' rest' =>
          rw [encode_cons, encode_cons, KeyPart.compare_encode_append, ih,
            List.compareLex_cons_cons]

/-- A key is the beginning of another one when its parts are, up to the signs of
zeros. -/
theorem encode_prefix_iff (first second : List KeyPart) :
    encode first <+: encode second ↔ first.map KeyPart.keyed <+: second.map KeyPart.keyed := by
  induction first generalizing second with
  | nil => exact iff_of_true List.nil_prefix List.nil_prefix
  | cons part rest ih =>
      cases second with
      | nil =>
          refine iff_of_false ?_ ?_
          · exact fun beginning => nomatch List.prefix_nil.mp beginning
          · exact fun beginning => nomatch List.prefix_nil.mp beginning
      | cons part' rest' =>
          rw [encode_cons, encode_cons, List.map_cons, List.map_cons, List.cons_prefix_cons, ← ih]
          constructor
          · rintro ⟨behind, whole⟩
            rw [List.append_assoc] at whole
            obtain ⟨same, rests⟩ := KeyPart.encode_append_eq whole
            exact ⟨same, behind, rests⟩
          · rintro ⟨same, behind, rests⟩
            rw [KeyPart.encode_inj.mpr same, ← rests, ← List.append_assoc]
            exact List.prefix_append _ _

/-- Keys sort as the lists of their parts do, part by part and with a list before
those that it is the beginning of; and the encoding of parts is the beginning of
another encoding exactly when these parts, with both zeros taken for one, are the
beginning of the others. -/
theorem encode_sorts_as_parts (first second : List KeyPart) :
    compare (encode first) (encode second) = List.compareLex KeyPart.order first second ∧
      (encode first <+: encode second ↔
        first.map KeyPart.keyed <+: second.map KeyPart.keyed) :=
  ⟨compare_encode first second, encode_prefix_iff first second⟩

end Key

end RecordIndex
