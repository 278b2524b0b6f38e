import RecordIndex.Key

namespace RecordIndex

/-!
# Numbers in keys

A number is kept in a key by its sortable bits, eight bytes with the most
significant one first.  Read as a natural number, the sortable bits are the
rank of the number moved up by half the range, with a gap of nothing between
the negative numbers and zero.  So they keep the order of the numbers, and
everything about a number but the sign of a zero.
-/

namespace Number

/-- The number that a key keeps.  Both zeros have the key of the positive
one. -/
def keyed (n : Number) : Number :=
  if n.magnitude = 0 then zero else n

theorem toNat_bits_lt (n : Number) : n.bits.toNat < 0x10000000000000000 :=
  n.bits.toNat_lt

theorem toNat_bits_of_negative {n : Number} (negative : n.isNegative = true) :
    n.bits.toNat = 0x8000000000000000 + n.magnitude := by
  have range := n.toNat_bits_lt
  have signed := of_decide_eq_true negative
  unfold magnitude
  omega

theorem toNat_bits_of_nonnegative {n : Number} (nonnegative : n.isNegative = false) :
    n.bits.toNat = n.magnitude := by
  have unsigned := of_decide_eq_false nonnegative
  unfold magnitude
  omega

theorem magnitude_lt (n : Number) : n.magnitude < 0x8000000000000000 :=
  Nat.mod_lt _ (by decide)

theorem rank_zero : zero.rank = 0 := by
  decide

/-- A number has rank zero when it is one of the zeros. -/
theorem rank_eq_zero_iff (n : Number) : n.rank = 0 ↔ n.magnitude = 0 := by
  unfold rank
  split <;> omega

/-- Numbers are equal when they have one rank. -/
theorem equals_iff {a b : Number} :
    a.equals b = true ↔ a.isNaN = false ∧ b.isNaN = false ∧ a.rank = b.rank := by
  unfold equals compare?
  cases a.isNaN with
  | true => exact iff_of_false nofun fun both => nomatch both.1
  | false =>
      cases b.isNaN with
      | true => exact iff_of_false nofun fun both => nomatch both.2.1
      | false =>
          rw [Bool.or_false, if_neg Bool.false_ne_true, beq_iff_eq, Option.some_inj,
            Int.compare_eq_eq]
          exact ⟨fun ranks => ⟨rfl, rfl, ranks⟩, fun both => both.2.2⟩

theorem isNaN_of_magnitude_eq_zero {n : Number} (none : n.magnitude = 0) : n.isNaN = false := by
  unfold isNaN
  rw [none]
  decide

theorem equals_zero (n : Number) : n.equals zero = decide (n.magnitude = 0) := by
  rw [Bool.eq_iff_iff, decide_eq_true_iff, equals_iff, rank_zero, rank_eq_zero_iff]
  exact ⟨fun both => both.2.2, fun none => ⟨isNaN_of_magnitude_eq_zero none, by decide, none⟩⟩

theorem magnitude_keyed (n : Number) : n.keyed.magnitude = n.magnitude := by
  unfold keyed
  split
  · rename_i none
    rw [none]
    decide
  · rfl

theorem isNaN_keyed (n : Number) : n.keyed.isNaN = n.isNaN := by
  unfold isNaN
  rw [magnitude_keyed]

theorem keyed_keyed (n : Number) : n.keyed.keyed = n.keyed := by
  by_cases none : n.magnitude = 0
  · have cleared : n.keyed = zero := if_pos none
    rw [cleared]
    decide
  · have kept : n.keyed = n := if_neg none
    rw [kept, kept]

end Number

namespace KeyPart

/-! ## Bits -/

/-- The topmost bit is set in the upper half of the words. -/
theorem shiftRight_eq_one_iff (word : UInt64) :
    word >>> 63 = 1 ↔ 0x8000000000000000 ≤ word.toNat := by
  have range := word.toNat_lt
  rw [← UInt64.toNat_inj, UInt64.toNat_shiftRight, Nat.shiftRight_eq_div_pow]
  simp only [UInt64.reduceToNat, Nat.reduceMod, Nat.reducePow]
  omega

/-- Changing the topmost bit moves a word into the other half. -/
theorem toNat_xor_signBit (word : UInt64) :
    (word ^^^ signBit).toNat =
      if 0x8000000000000000 ≤ word.toNat then word.toNat - 0x8000000000000000
      else word.toNat + 0x8000000000000000 := by
  have range := word.toNat_lt
  have high :
      (word.toNat ^^^ 0x8000000000000000) / Nat.pow 2 63 = word.toNat / Nat.pow 2 63 ^^^ 1 :=
    Nat.xor_div_two_pow
  have low : (word.toNat ^^^ 0x8000000000000000) % Nat.pow 2 63 = word.toNat % Nat.pow 2 63 := by
    have split : (word.toNat ^^^ 0x8000000000000000) % Nat.pow 2 63 =
        word.toNat % Nat.pow 2 63 ^^^ 0x8000000000000000 % Nat.pow 2 63 := Nat.xor_mod_two_pow
    rw [split]
    exact Nat.xor_zero _
  rw [UInt64.toNat_xor]
  change word.toNat ^^^ 0x8000000000000000 = _
  have power : Nat.pow 2 63 = 0x8000000000000000 := by decide
  rw [power] at high low
  split
  · have top : word.toNat / 0x8000000000000000 = 1 := by omega
    rw [top] at high
    have cleared : (1 ^^^ 1 : Nat) = 0 := by decide
    omega
  · have top : word.toNat / 0x8000000000000000 = 0 := by omega
    rw [top] at high
    have set : (0 ^^^ 1 : Nat) = 1 := by decide
    omega

theorem xor_signBit_xor_signBit (word : UInt64) : word ^^^ signBit ^^^ signBit = word := by
  rw [UInt64.xor_assoc, UInt64.xor_self, UInt64.xor_zero]

/-! ## Sortable bits -/

/-- The sortable bits are the rank, moved up. -/
theorem toNat_sortableBits (n : Number) :
    ((sortableBits n).toNat : Int) =
      if n.rank < 0 then 0x7FFFFFFFFFFFFFFF + n.rank else 0x8000000000000000 + n.rank := by
  have small := n.magnitude_lt
  unfold sortableBits
  rw [Number.equals_zero]
  by_cases none : n.magnitude = 0
  · rw [decide_eq_true none, (Number.rank_eq_zero_iff n).mpr none]
    simp only [if_true]
    decide
  · rw [decide_eq_false none]
    simp only [Bool.false_eq_true, if_false, shiftRight_eq_one_iff]
    cases negative : n.isNegative with
    | true =>
        have bits := Number.toNat_bits_of_negative negative
        have rank : n.rank = -(n.magnitude : Int) := by
          unfold Number.rank
          rw [if_pos negative]
        rw [if_pos (by omega), UInt64.toNat_not, bits, rank, if_pos (by omega)]
        simp only [UInt64.size]
        omega
    | false =>
        have bits := Number.toNat_bits_of_nonnegative negative
        have rank : n.rank = n.magnitude := by
          unfold Number.rank
          rw [if_neg (by rw [negative]; exact Bool.false_ne_true)]
        rw [if_neg (by omega), toNat_xor_signBit, if_neg (by omega), bits, rank,
          if_neg (by omega)]
        omega

theorem ofSortableBits_sortableBits (n : Number) : ofSortableBits (sortableBits n) = n.keyed := by
  have small := n.magnitude_lt
  unfold sortableBits Number.keyed
  rw [Number.equals_zero]
  by_cases none : n.magnitude = 0
  · rw [decide_eq_true none, if_pos none]
    simp only [if_true]
    decide
  · rw [decide_eq_false none, if_neg none]
    simp only [Bool.false_eq_true, if_false, shiftRight_eq_one_iff]
    unfold ofSortableBits
    simp only [shiftRight_eq_one_iff]
    cases negative : n.isNegative with
    | true =>
        have bits := Number.toNat_bits_of_negative negative
        have inverted : ¬ 0x8000000000000000 ≤ (~~~n.bits).toNat := by
          rw [UInt64.toNat_not, bits]
          simp only [UInt64.size]
          omega
        have high : 0x8000000000000000 ≤ n.bits.toNat := by omega
        rw [if_pos high, if_neg inverted, UInt64.not_not]
    | false =>
        have bits := Number.toNat_bits_of_nonnegative negative
        have moved : 0x8000000000000000 ≤ (n.bits ^^^ signBit).toNat := by
          rw [toNat_xor_signBit, if_neg (by omega)]
          omega
        have low : ¬ 0x8000000000000000 ≤ n.bits.toNat := by omega
        rw [if_neg low, if_pos moved, xor_signBit_xor_signBit]

theorem sortableBits_keyed (n : Number) : sortableBits n.keyed = sortableBits n := by
  unfold Number.keyed
  split
  · rename_i none
    unfold sortableBits
    rw [Number.equals_zero, Number.equals_zero, decide_eq_true none]
    rfl
  · rfl

/-- Sortable bits sort as the numbers do. -/
theorem compare_sortableBits (a b : Number) :
    compare (sortableBits a).toNat (sortableBits b).toNat = compare a.rank b.rank := by
  have first := toNat_sortableBits a
  have second := toNat_sortableBits b
  cases order : compare a.rank b.rank with
  | lt =>
      have below := Int.compare_eq_lt.mp order
      apply Nat.compare_eq_lt.mpr
      split at first <;> split at second <;> omega
  | eq =>
      have same := Int.compare_eq_eq.mp order
      apply Nat.compare_eq_eq.mpr
      split at first <;> split at second <;> omega
  | gt =>
      have above := Int.compare_eq_gt.mp order
      apply Nat.compare_eq_gt.mpr
      split at first <;> split at second <;> omega

/-! ## Bytes -/

/-- The natural number that bytes spell behind `n`, the most significant one
first. -/
def natOfBytes (n : Nat) (bytes : Key) : Nat :=
  bytes.foldl (fun n byte => n * 256 + byte.toNat) n

/-- One more byte at the low end of a word with room at its high end. -/
theorem toNat_appendByte {word : UInt64} (room : word.toNat < 0x100000000000000)
    (byte : UInt8) :
    ((word <<< 8) ||| byte.toUInt64).toNat = word.toNat * 256 + byte.toNat := by
  have low : byte.toNat < Nat.pow 2 8 := byte.toNat_lt
  have joined := Nat.shiftLeft_add_eq_or_of_lt low word.toNat
  rw [UInt64.toNat_or, UInt64.toNat_shiftLeft, UInt8.toNat_toUInt64]
  simp only [UInt64.reduceToNat, Nat.reduceMod, Nat.reducePow]
  have shifted : word.toNat <<< 8 = word.toNat * 256 := Nat.shiftLeft_eq word.toNat 8
  have fits : word.toNat <<< 8 % 0x10000000000000000 = word.toNat <<< 8 :=
    Nat.mod_eq_of_lt (by omega)
  rw [fits, ← joined, shifted]

theorem natOfBytes_cons (n : Nat) (byte : UInt8) (rest : Key) :
    natOfBytes n (byte :: rest) = natOfBytes (n * 256 + byte.toNat) rest :=
  rfl

theorem le_natOfBytes (n : Nat) (bytes : Key) : n ≤ natOfBytes n bytes := by
  induction bytes generalizing n with
  | nil => exact Nat.le_refl n
  | cons byte rest ih =>
      have more := ih (n * 256 + byte.toNat)
      rw [natOfBytes_cons]
      omega

/-- What stands in front weighs as much as the bytes have places. -/
theorem natOfBytes_eq (n : Nat) (bytes : Key) :
    natOfBytes n bytes = n * Nat.pow 256 bytes.length + natOfBytes 0 bytes := by
  induction bytes generalizing n with
  | nil => exact (Nat.mul_one n).symm
  | cons byte rest ih =>
      rw [natOfBytes_cons, natOfBytes_cons, ih, ih (0 * 256 + byte.toNat), List.length_cons,
        Nat.zero_mul, Nat.zero_add, Nat.add_mul, Nat.mul_assoc, Nat.add_assoc]
      congr 2
      exact Nat.mul_comm 256 (Nat.pow 256 rest.length)

theorem natOfBytes_lt (bytes : Key) : natOfBytes 0 bytes < Nat.pow 256 bytes.length := by
  induction bytes with
  | nil => exact Nat.one_pos
  | cons byte rest ih =>
      have digit : byte.toNat + 1 ≤ 256 := byte.toNat_lt
      have room := Nat.mul_le_mul_right (Nat.pow 256 rest.length) digit
      have power : Nat.pow 256 (byte :: rest).length = 256 * Nat.pow 256 rest.length :=
        Nat.mul_comm (Nat.pow 256 rest.length) 256
      rw [natOfBytes_cons, natOfBytes_eq, Nat.zero_mul, Nat.zero_add, power]
      rw [Nat.add_mul, Nat.one_mul] at room
      omega

/-- Bytes are appended to a word as long as the number that they spell fits. -/
theorem toNat_foldl_appendByte (bytes : Key) (word : UInt64)
    (fits : natOfBytes word.toNat bytes < 0x10000000000000000) :
    (bytes.foldl (fun (word : UInt64) byte => (word <<< 8) ||| byte.toUInt64) word).toNat =
      natOfBytes word.toNat bytes := by
  induction bytes generalizing word with
  | nil => rfl
  | cons byte rest ih =>
      have least := le_natOfBytes (word.toNat * 256 + byte.toNat) rest
      rw [natOfBytes_cons] at fits ⊢
      have room : word.toNat < 0x100000000000000 := by omega
      have appended := toNat_appendByte room byte
      rw [← appended] at fits ⊢
      exact ih _ fits

theorem natOfBytes_wordBytes (word : UInt64) : natOfBytes 0 (wordBytes word) = word.toNat := by
  have range := word.toNat_lt
  have top : word.toNat / 0x100000000000000 % 256 = word.toNat / 0x100000000000000 :=
    Nat.mod_eq_of_lt (by omega)
  have digit (place : Nat) :
      word.toNat / (place * 256) * 256 + word.toNat / place % 256 = word.toNat / place := by
    rw [← Nat.div_div_eq_div_mul, Nat.div_add_mod']
  simp only [natOfBytes, wordBytes, List.foldl_cons, List.foldl_nil, UInt64.toNat_toUInt8,
    UInt64.toNat_shiftRight, Nat.shiftRight_eq_div_pow, UInt64.reduceToNat, Nat.reduceMod,
    Nat.reducePow, Nat.zero_mul, Nat.zero_add, top]
  rw [digit 0x1000000000000, digit 0x10000000000, digit 0x100000000, digit 0x1000000,
    digit 0x10000, digit 0x100]
  exact Nat.div_add_mod' word.toNat 256

theorem length_wordBytes (word : UInt64) : (wordBytes word).length = 8 :=
  rfl

theorem wordOfBytes_wordBytes (word : UInt64) : wordOfBytes (wordBytes word) = word := by
  have spelled := natOfBytes_wordBytes word
  apply UInt64.toNat_inj.mp
  rw [← spelled]
  apply toNat_foldl_appendByte (wordBytes word) 0
  exact spelled.symm ▸ word.toNat_lt

/-! ## Order of bytes -/

theorem compare_toNat (byte byte' : UInt8) :
    compare byte.toNat byte'.toNat = compare byte byte' := by
  simp only [compare, compareOfLessAndEq, UInt8.lt_iff_toNat_lt, ← UInt8.toNat_inj]

/-- A number of two digits sorts by its first digit and then by its second. -/
theorem compare_digits {a b c d base : Nat} (small : b < base) (small' : d < base) :
    compare (a * base + b) (c * base + d) = (compare a c).then (compare b d) := by
  rcases Nat.lt_trichotomy a c with below | same | above
  · have carried := Nat.mul_le_mul_right base (show a + 1 ≤ c from below)
    rw [Nat.add_mul, Nat.one_mul] at carried
    rw [Nat.compare_eq_lt.mpr below, Ordering.lt_then]
    exact Nat.compare_eq_lt.mpr (by omega)
  · rw [same, Nat.compare_eq_eq.mpr rfl, Ordering.eq_then]
    rcases Nat.lt_trichotomy b d with below | equal | above
    · rw [Nat.compare_eq_lt.mpr below]
      exact Nat.compare_eq_lt.mpr (by omega)
    · rw [equal, Nat.compare_eq_eq.mpr rfl, Nat.compare_eq_eq.mpr rfl]
    · rw [Nat.compare_eq_gt.mpr above]
      exact Nat.compare_eq_gt.mpr (by omega)
  · have carried := Nat.mul_le_mul_right base (show c + 1 ≤ a from above)
    rw [Nat.add_mul, Nat.one_mul] at carried
    rw [Nat.compare_eq_gt.mpr above, Ordering.gt_then]
    exact Nat.compare_eq_gt.mpr (by omega)

/-- Bytes of one length sort as the numbers that they spell. -/
theorem compare_natOfBytes {first second : Key} (same : first.length = second.length) :
    compare (natOfBytes 0 first) (natOfBytes 0 second) = compare first second := by
  induction first generalizing second with
  | nil =>
      cases second with
      | nil => rfl
      | cons _ _ => cases same
  | cons byte rest ih =>
      cases second with
      | nil => cases same
      | cons byte' rest' =>
          have lengths : rest.length = rest'.length := Nat.succ.inj same
          have ih := ih lengths
          have bound := natOfBytes_lt rest
          have bound' := natOfBytes_lt rest'
          have head : natOfBytes 0 (byte :: rest) =
              byte.toNat * Nat.pow 256 rest.length + natOfBytes 0 rest := by
            rw [natOfBytes_cons, natOfBytes_eq, Nat.zero_mul, Nat.zero_add]
          have head' : natOfBytes 0 (byte' :: rest') =
              byte'.toNat * Nat.pow 256 rest.length + natOfBytes 0 rest' := by
            rw [natOfBytes_cons, natOfBytes_eq, Nat.zero_mul, Nat.zero_add, lengths]
          rw [← lengths] at bound'
          rw [List.compare_cons_cons, ← ih, ← compare_toNat, head, head']
          exact compare_digits bound bound'

/-- The bytes of words sort as the words. -/
theorem compare_wordBytes (first second : UInt64) :
    compare (wordBytes first) (wordBytes second) = compare first.toNat second.toNat := by
  have lengths := (length_wordBytes first).trans (length_wordBytes second).symm
  rw [← compare_natOfBytes lengths, natOfBytes_wordBytes, natOfBytes_wordBytes]

/-- The bytes of numbers sort as the numbers. -/
theorem compare_sortableBytes (a b : Number) :
    compare (wordBytes (sortableBits a)) (wordBytes (sortableBits b)) = compare a.rank b.rank := by
  rw [compare_wordBytes, compare_sortableBits]

end KeyPart

end RecordIndex
