import RecordIndex.Proofs.Key.Words

namespace RecordIndex

/-!
# Whole numbers read back

A whole number in the exact range is the double nearest to the integer that it
is.  Only the sign of a zero is lost on the way.
-/

namespace Number

/-- A significand shifted to the right by at most its fraction is shifted back
by its logarithm. -/
theorem nearestMagnitude_of_shifted {whole shift fraction : Nat} (within : shift ≤ 52)
    (small : fraction < leadingBit)
    (shifted : whole * Nat.pow 2 shift = fraction + leadingBit) :
    nearestMagnitude whole = (1074 - shift) * leadingBit + (fraction + leadingBit) := by
  have power : Nat.pow 2 (52 - shift) * Nat.pow 2 shift = leadingBit := by
    change 2 ^ (52 - shift) * 2 ^ shift = leadingBit
    rw [← Nat.pow_add, Nat.sub_add_cancel within]
    decide
  have positive : 0 < Nat.pow 2 shift := Nat.pow_pos (by decide)
  have lower : Nat.pow 2 (52 - shift) ≤ whole := by
    refine Nat.le_of_mul_le_mul_right ?_ positive
    rw [power, shifted]
    exact Nat.le_add_left _ _
  have upper : whole < Nat.pow 2 (52 - shift + 1) := by
    apply Nat.lt_of_mul_lt_mul_right (a := Nat.pow 2 shift)
    change whole * Nat.pow 2 shift < Nat.pow 2 (52 - shift) * 2 * Nat.pow 2 shift
    rw [Nat.mul_right_comm, power, shifted]
    omega
  have nonzero : whole ≠ 0 := by
    intro none
    rw [none, Nat.zero_mul] at shifted
    have leading : 0 < leadingBit := by decide
    omega
  have log : whole.log2 = 52 - shift := (Nat.log2_eq_iff nonzero).mpr ⟨lower, upper⟩
  have back : 52 - (52 - shift) = shift := by omega
  have exponent : 52 - shift + 1022 = 1074 - shift := by omega
  unfold nearestMagnitude
  rw [if_neg nonzero, if_pos (by rw [log]; exact Nat.sub_le _ _), log, back, shifted, exponent]

/-- A whole number is its significand, shifted to the left or to the right
without loss. -/
theorem shift_of_whole {n : Number} {whole : Nat} (isWhole : n.wholeMagnitude? = some whole) :
    (0 ≤ n.exponent ∧ n.significand * Nat.pow 2 n.exponent.toNat = whole) ∨
      (n.exponent < 0 ∧ whole * Nat.pow 2 (-n.exponent).toNat = n.significand) := by
  unfold wholeMagnitude? at isWhole
  split at isWhole
  · cases isWhole
  · split at isWhole
    · rename_i nonnegative
      exact .inl ⟨nonnegative, Option.some.inj isWhole⟩
    · rename_i negative
      dsimp only at isWhole
      split at isWhole
      · rename_i divides
        refine .inr ⟨Int.not_le.mp negative, ?_⟩
        rw [← Option.some.inj isWhole]
        exact Nat.div_mul_cancel (Nat.dvd_of_mod_eq_zero divides)
      · cases isWhole

/-- Only the zeros are zero. -/
theorem magnitude_of_whole_zero {n : Number} (isWhole : n.wholeMagnitude? = some 0) :
    n.magnitude = 0 := by
  have leading : 0 < leadingBit := by decide
  have none : n.significand = 0 := by
    rcases shift_of_whole isWhole with ⟨_, shifted⟩ | ⟨_, shifted⟩
    · rcases Nat.mul_eq_zero.mp shifted with none | powerless
      · exact none
      · exact absurd powerless (Nat.ne_of_gt (Nat.pow_pos (by decide)))
    · rw [Nat.zero_mul] at shifted
      exact shifted.symm
  unfold significand at none
  split at none
  · exact none
  · omega

/-- Both zeros are the integer zero. -/
theorem toInt?_of_magnitude_zero {n : Number} (none : n.magnitude = 0) : n.toInt? = some 0 := by
  have finite : n.isFinite = true := decide_eq_true (by rw [none]; decide)
  have exponent : n.exponent = -1074 := if_pos (by rw [none]; decide)
  have significand : n.significand = 0 := (if_pos (by rw [none]; decide)).trans none
  have whole : n.wholeMagnitude? = some 0 := by
    unfold wholeMagnitude?
    rw [finite, if_neg (by decide), exponent, if_neg (by decide), significand]
    dsimp only
    rw [Nat.zero_mod, if_pos rfl, Nat.zero_div]
  unfold toInt?
  rw [whole]
  cases n.isNegative with
  | true => rfl
  | false => rfl

/-- A number that is whole and not zero is at least one, so it has its leading
bit. -/
theorem leadingBit_le_of_whole {n : Number} {whole : Nat}
    (isWhole : n.wholeMagnitude? = some whole) (nonzero : whole ≠ 0) :
    leadingBit ≤ n.magnitude := by
  apply Nat.le_of_not_lt
  intro subnormal
  have significand : n.significand = n.magnitude := if_pos subnormal
  have exponent : n.exponent = -1074 := if_pos subnormal
  have large : 52 ≤ (-n.exponent).toNat := by omega
  have scale : leadingBit ≤ Nat.pow 2 (-n.exponent).toNat :=
    Nat.pow_le_pow_right (by decide : 0 < 2) large
  rcases shift_of_whole isWhole with ⟨nonnegative, _⟩ | ⟨_, shifted⟩
  · omega
  · have grown := Nat.mul_le_mul (Nat.pos_of_ne_zero nonzero) scale
    omega

/-- A whole number in the exact range is its significand shifted to the right
by at most the bits of its fraction. -/
theorem shift_le_of_whole {n : Number} {whole : Nat} (isWhole : n.wholeMagnitude? = some whole)
    (nonzero : whole ≠ 0) (exactly : whole ≤ maxExactInteger) :
    ∃ shift, shift ≤ 52 ∧ n.magnitude / leadingBit = 1075 - shift ∧
      whole * Nat.pow 2 shift = n.magnitude % leadingBit + leadingBit := by
  have normal : ¬ n.magnitude < leadingBit :=
    Nat.not_lt.mpr (leadingBit_le_of_whole isWhole nonzero)
  have significand : n.significand = n.magnitude % leadingBit + leadingBit := if_neg normal
  have exponent : n.exponent = (n.magnitude / leadingBit : Nat) - 1075 := if_neg normal
  have fraction : n.magnitude % leadingBit < leadingBit := Nat.mod_lt _ (by decide)
  have limit : maxExactInteger < 2 * leadingBit := by decide
  rcases shift_of_whole isWhole with ⟨nonnegative, shifted⟩ | ⟨negative, shifted⟩
  · -- A power above one would carry the significand out of the exact range.
    cases power : n.exponent.toNat with
    | zero =>
        rw [power] at shifted
        refine ⟨0, Nat.zero_le _, by omega, ?_⟩
        rw [← shifted, significand]
        change _ * 1 * 1 = _
        rw [Nat.mul_one, Nat.mul_one]
    | succ extra =>
        have twice : 2 ≤ Nat.pow 2 (extra + 1) :=
          Nat.pow_le_pow_right (by decide : 0 < 2) (Nat.succ_pos extra)
        have grown := Nat.mul_le_mul_left n.significand twice
        rw [power] at shifted
        omega
  · have small : (-n.exponent).toNat ≤ 52 := by
      apply Nat.le_of_not_lt
      intro large
      have twice : 2 * leadingBit ≤ Nat.pow 2 (-n.exponent).toNat :=
        Nat.pow_le_pow_right (by decide : 0 < 2) large
      have grown := Nat.mul_le_mul (Nat.pos_of_ne_zero nonzero) twice
      omega
    refine ⟨(-n.exponent).toNat, small, by omega, ?_⟩
    rw [shifted, significand]

theorem nearestMagnitude_of_whole {n : Number} {whole : Nat}
    (isWhole : n.wholeMagnitude? = some whole) (nonzero : whole ≠ 0)
    (exactly : whole ≤ maxExactInteger) : nearestMagnitude whole = n.magnitude := by
  rcases shift_le_of_whole isWhole nonzero exactly with ⟨shift, within, exponent, shifted⟩
  have fraction : n.magnitude % leadingBit < leadingBit := Nat.mod_lt _ (by decide)
  have parts := Nat.div_add_mod n.magnitude leadingBit
  have carried : 1075 - shift = (1074 - shift) + 1 := by omega
  rw [exponent, carried, Nat.mul_add, Nat.mul_one, Nat.mul_comm] at parts
  rw [nearestMagnitude_of_shifted within fraction shifted]
  omega

/-- The integer that a number in the exact range is stored as is read as that
number, up to the sign of a zero. -/
theorem ofInt_of_toInt? {n : Number} {i : Int} (isWhole : n.toInt? = some i)
    (exactly : i.natAbs ≤ maxExactInteger) : ofInt i = n.keyed := by
  unfold toInt? at isWhole
  rcases Option.map_eq_some_iff.mp isWhole with ⟨whole, whole?, signed⟩
  have absolute : i.natAbs = whole := by
    rw [← signed]
    split <;> omega
  rw [absolute] at exactly
  unfold ofInt
  rw [absolute]
  by_cases none : whole = 0
  · subst none
    have zeroInt : ¬ i < 0 := by omega
    unfold keyed
    rw [if_pos (magnitude_of_whole_zero whole?)]
    dsimp only
    rw [if_neg zeroInt]
    rfl
  · have magnitude := nearestMagnitude_of_whole whole? none exactly
    have nonzero : n.magnitude ≠ 0 := by
      have leading := leadingBit_le_of_whole whole? none
      have positive : 0 < leadingBit := by decide
      omega
    unfold keyed
    rw [if_neg nonzero, magnitude]
    apply congrArg Number.mk
    cases negative : n.isNegative with
    | true =>
        rw [negative, if_pos rfl] at signed
        rw [if_pos (by omega), ← toNat_bits_of_negative negative, UInt64.ofNat_toNat]
    | false =>
        rw [negative, if_neg Bool.false_ne_true] at signed
        rw [if_neg (by omega), ← toNat_bits_of_nonnegative negative, UInt64.ofNat_toNat]

end Number

end RecordIndex
