namespace RecordIndex

/-!
# Reading integers

The decimal spelling of an integer: an optional sign and at least one ASCII
digit, with nothing around it.  Leading zeros are allowed, so a number has
many spellings; a spelling that does not fit the width asked for is refused.
-/

namespace IntegerText

/-- The number that a row of digits spells, continuing from `n`. -/
def value? (n : Nat) : List Char -> Option Nat
  | [] => some n
  | c :: rest => if c.isDigit then value? (n * 10 + (c.toNat - 48)) rest else none

/-- At least one digit and nothing else. -/
def digits? : List Char -> Option Nat
  | [] => none
  | c :: rest => value? 0 (c :: rest)

/-- A natural number below `2 ^ 64`.  A plus sign may stand before it. -/
def natural? (text : String) : Option Nat :=
  let digits :=
    match text.toList with
    | '+' :: rest => rest
    | cs => cs
  (digits? digits).filter fun n => decide (n < 0x10000000000000000)

/-- A signed 64-bit integer. -/
def integer? (text : List Char) : Option Int64 :=
  match text with
  | '-' :: rest =>
      ((digits? rest).filter fun n => decide (n ≤ 0x8000000000000000)).map fun n => Int64.ofInt (-(n : Int))
  | '+' :: rest =>
      ((digits? rest).filter fun n => decide (n < 0x8000000000000000)).map fun n => Int64.ofInt n
  | cs => ((digits? cs).filter fun n => decide (n < 0x8000000000000000)).map fun n => Int64.ofInt n

end IntegerText

end RecordIndex
