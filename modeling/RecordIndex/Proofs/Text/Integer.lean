import RecordIndex.Text.Integer

namespace RecordIndex

/-!
# Integers read back

The decimal spelling of an integer of 64 bits is read as that integer.  A natural
number has other spellings that are read as it, with a sign or with zeros in
front, and these are all.
-/

namespace IntegerText

/-- Digits are read as the number that they are the digits of. -/
theorem value?_eq_some {digits : List Char} (allDigits : ∀ c ∈ digits, c.isDigit = true)
    (n : Nat) : value? n digits = some (Nat.ofDigitChars 10 digits n) := by
  induction digits generalizing n with
  | nil => rw [value?, Nat.ofDigitChars_nil]
  | cons c rest ih =>
      have first := allDigits c List.mem_cons_self
      have later := fun d member => allDigits d (List.mem_cons_of_mem c member)
      rw [value?, if_pos first, ih later, Nat.ofDigitChars_cons, Nat.mul_comm n]
      rfl

theorem isDigit_of_mem_repr {n : Nat} {c : Char} (member : c ∈ (Nat.repr n).toList) :
    c.isDigit = true := by
  rw [Nat.toList_repr] at member
  exact Nat.isDigit_of_mem_toDigits (by decide) (by decide) member

theorem digits?_repr (n : Nat) : digits? (Nat.repr n).toList = some n := by
  have nonempty : (Nat.repr n).toList ≠ [] := by
    rw [Nat.toList_repr]
    exact Nat.toDigits_ne_nil
  have value := value?_eq_some (fun c => isDigit_of_mem_repr (n := n) (c := c)) 0
  rw [Nat.toList_repr, Nat.ofDigitChars_ten_toDigits, ← Nat.toList_repr] at value
  cases digits : (Nat.repr n).toList with
  | nil => exact absurd digits nonempty
  | cons c rest =>
      rw [digits] at value
      exact value

/-- The spelling of a position is read as that position. -/
theorem natural?_repr {n : Nat} (small : n < 0x10000000000000000) :
    natural? (Nat.repr n) = some n := by
  have digits := digits?_repr n
  unfold natural?
  split
  · rename_i rest isPlus
    have member : '+' ∈ (Nat.repr n).toList := by
      rw [isPlus]
      exact List.mem_cons_self
    cases isDigit_of_mem_repr member
  · dsimp only
    rw [digits, Option.filter_some, if_pos (decide_eq_true small)]

/-- A spelling that begins with a digit has no sign. -/
theorem integer?_of_digit {c : Char} (digit : c.isDigit = true) (rest : List Char) :
    integer? (c :: rest) =
      ((digits? (c :: rest)).filter fun n => decide (n < 0x8000000000000000)).map
        fun n => Int64.ofInt n := by
  unfold integer?
  split
  · rename_i isMinus
    cases (List.cons.inj isMinus).1
    cases digit
  · rename_i isPlus
    cases (List.cons.inj isPlus).1
    cases digit
  · rfl

/-- The spelling of an integer of 64 bits is read as that integer. -/
theorem integer?_repr (x : Int64) : integer? (Int.repr x.toInt).toList = some x := by
  have lower := x.le_toInt
  have upper := x.toInt_lt
  have same := Int64.ofInt_toInt x
  cases value : x.toInt with
  | ofNat n =>
      rw [value] at upper same
      have digits := digits?_repr n
      change integer? (Nat.repr n).toList = some x
      cases shape : (Nat.repr n).toList with
      | nil =>
          rw [shape] at digits
          cases digits
      | cons c rest =>
          have member : c ∈ (Nat.repr n).toList := by
            rw [shape]
            exact List.mem_cons_self
          have small : n < 0x8000000000000000 := Int.ofNat_lt.mp upper
          rw [shape] at digits
          rw [integer?_of_digit (isDigit_of_mem_repr member), digits, Option.filter_some,
            if_pos (decide_eq_true small)]
          exact congrArg some same
  | negSucc n =>
      rw [value] at lower same
      have digits := digits?_repr (n + 1)
      have shape : (Int.repr (Int.negSucc n)).toList = '-' :: (Nat.repr (n + 1)).toList :=
        String.toList_append
      have small : n + 1 ≤ 0x8000000000000000 := by omega
      rw [shape, integer?, digits, Option.filter_some, if_pos (decide_eq_true small)]
      exact congrArg some same

/-! ## Padding -/

/-- The text holds more than the digits that a number is written with: a sign,
or a zero in front of further digits. -/
def isPadded (text : String) : Bool :=
  match text.toList with
  | '+' :: _ => true
  | '0' :: _ :: _ => true
  | _ => false

theorem isPadded_iff {text : String} : isPadded text = true ↔
    (∃ rest, text.toList = '+' :: rest) ∨ ∃ c rest, text.toList = '0' :: c :: rest := by
  unfold isPadded
  split
  · rename_i rest isPlus
    exact iff_of_true rfl (.inl ⟨rest, isPlus⟩)
  · rename_i c rest isZero
    exact iff_of_true rfl (.inr ⟨c, rest, isZero⟩)
  · rename_i noPlus noZero
    refine iff_of_false Bool.false_ne_true ?_
    rintro (⟨rest, isPlus⟩ | ⟨c, rest, isZero⟩)
    · exact noPlus rest isPlus
    · exact noZero c rest isZero

/-- Only zero is written with a zero in front. -/
theorem head?_toDigits_ne_zero {n : Nat} (positive : 0 < n) :
    (Nat.toDigits 10 n).head? ≠ some '0' := by
  induction n using Nat.strongRecOn with
  | ind n ih =>
      by_cases small : n < 10
      · rw [Nat.toDigits_of_lt_base small, List.head?_cons, ne_eq, Option.some.injEq,
          Nat.digitChar_eq_zero]
        exact Nat.ne_of_gt positive
      · have earlier := ih (n / 10) (by omega) (by omega)
        rw [Nat.toDigits_of_base_le (by decide) (Nat.le_of_not_lt small)]
        cases shape : Nat.toDigits 10 (n / 10) with
        | nil => exact absurd shape Nat.toDigits_ne_nil
        | cons c rest =>
            rw [shape] at earlier
            exact earlier

theorem isPadded_repr (n : Nat) : isPadded (Nat.repr n) = false := by
  apply Bool.eq_false_iff.mpr
  intro padded
  rcases isPadded_iff.mp padded with ⟨rest, isPlus⟩ | ⟨c, rest, isZero⟩
  · have member : '+' ∈ (Nat.repr n).toList := by
      rw [isPlus]
      exact List.mem_cons_self
    cases isDigit_of_mem_repr member
  · rw [Nat.toList_repr] at isZero
    cases n with
    | zero => cases (Nat.toDigits_zero 10).symm.trans isZero
    | succ n =>
        apply head?_toDigits_ne_zero n.succ_pos
        rw [isZero, List.head?_cons]

theorem toNat_of_isDigit {c : Char} (digit : c.isDigit = true) :
    48 ≤ c.toNat ∧ c.toNat ≤ 57 :=
  Char.isDigit_iff_toNat.mp digit

theorem toDigits_digit {c : Char} (digit : c.isDigit = true) :
    Nat.toDigits 10 (c.toNat - 48) = [c] := by
  have bounds := toNat_of_isDigit digit
  rw [Nat.toDigits_of_lt_base (by omega)]
  congr 1
  apply Char.toNat_inj.mp
  rw [Nat.toNat_digitChar_of_lt_ten (by omega)]
  omega

/-- Digits that are read after those of a number stand behind them when what was
read is written again. -/
theorem toDigits_of_value? {digits : List Char} {n m : Nat} (positive : 0 < n)
    (isValue : value? n digits = some m) : Nat.toDigits 10 m = Nat.toDigits 10 n ++ digits := by
  induction digits generalizing n with
  | nil =>
      cases isValue
      exact (List.append_nil _).symm
  | cons c rest ih =>
      rw [value?] at isValue
      split at isValue
      · rename_i digit
        have one := toDigits_digit digit
        have bounds := toNat_of_isDigit digit
        have shorter : c.toNat - 48 < 10 := by omega
        calc Nat.toDigits 10 m
            = Nat.toDigits 10 (n * 10 + (c.toNat - 48)) ++ rest := ih (by omega) isValue
          _ = (Nat.toDigits 10 n ++ [c]) ++ rest := by
              rw [Nat.mul_comm, ← Nat.toDigits_append_toDigits (by decide) positive shorter, one]
          _ = Nat.toDigits 10 n ++ c :: rest := by rw [List.append_assoc, List.singleton_append]
      · cases isValue

/-- What is read without padding is spelled as it is written. -/
theorem toList_of_digits? {digits : List Char} {n : Nat} (isNumber : digits? digits = some n)
    (unpadded : forall c rest, digits ≠ '0' :: c :: rest) : digits = Nat.toDigits 10 n := by
  cases digits with
  | nil => cases isNumber
  | cons c rest =>
      rw [digits?, value?, Nat.zero_mul, Nat.zero_add] at isNumber
      split at isNumber
      · rename_i digit
        have one := toDigits_digit digit
        by_cases isZero : c = '0'
        · subst isZero
          cases rest with
          | nil =>
              cases isNumber
              rfl
          | cons d rest => exact absurd rfl (unpadded d rest)
        · have bounds := toNat_of_isDigit digit
          have notZero : c.toNat ≠ 48 := fun same => isZero (Char.toNat_inj.mp same)
          rw [toDigits_of_value? (by omega) isNumber, one, List.singleton_append]
      · cases isNumber

/-- A number is spelled as it is written exactly when the spelling is not padded. -/
theorem eq_repr_iff {text : String} {n : Nat} (isNumber : natural? text = some n) :
    text = Nat.repr n ↔ isPadded text = false := by
  constructor
  · rintro rfl
    exact isPadded_repr n
  · intro unpadded
    have unpadded := mt isPadded_iff.mpr (Bool.eq_false_iff.mp unpadded)
    apply String.toList_inj.mp
    rw [Nat.toList_repr]
    unfold natural? at isNumber
    split at isNumber
    · rename_i rest isPlus
      exact absurd (.inl ⟨rest, isPlus⟩) unpadded
    · exact toList_of_digits? (Option.eq_some_of_filter_eq_some isNumber)
        fun c rest isZero => unpadded (.inr ⟨c, rest, isZero⟩)

end IntegerText

end RecordIndex
