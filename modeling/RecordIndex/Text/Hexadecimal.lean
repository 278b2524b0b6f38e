namespace RecordIndex

/-!
# Hexadecimal digits

Reading accepts either case; writing uses lower case, without leading zeros.
-/

namespace Hexadecimal

/-- The digit of a number below sixteen. -/
def digit (n : Nat) : Char :=
  if n < 10 then Char.ofNat (48 + n) else Char.ofNat (87 + n)

/-- The number that a digit stands for. -/
def value? (c : Char) : Option Nat :=
  if '0' ≤ c && c ≤ '9' then some (c.toNat - 48)
  else if 'a' ≤ c && c ≤ 'f' then some (c.toNat - 87)
  else if 'A' ≤ c && c ≤ 'F' then some (c.toNat - 55)
  else none

/-- The number that a row of digits spells.  There must be at least one. -/
def natural? (digits : List Char) : Option Nat :=
  if digits.isEmpty then none
  else digits.foldlM (fun n c => (value? c).map fun digit => n * 16 + digit) 0

/-- The digits of a number. -/
def ofNat (n : Nat) : List Char :=
  Nat.toDigits 16 n

end Hexadecimal

end RecordIndex
