namespace RecordIndex

/-!
# Numbers

The numbers of a record are IEEE 754 doubles.  They are kept as their 64 bits
rather than as a machine float, because an index key stores those bits and
must give every one of them back, whatever kind of number they spell.

Order and equality are read off the bits.  Below the sign bit the encoding is
monotone: among numbers of one sign, the larger magnitude is the larger bit
pattern.  `rank` turns that into one integer per number, with both zeros at
zero, so that comparing numbers is comparing integers.  Only a number that is
no number at all, `isNaN`, has no place in the order.
-/

/-- An IEEE 754 double, given by its bits. -/
structure Number where
  bits : UInt64
deriving DecidableEq, Inhabited

namespace Number

/-! ## The fields of the encoding -/

/-- The sign bit.  It is set for negative zero too. -/
def isNegative (n : Number) : Bool :=
  decide (0x8000000000000000 ≤ n.bits.toNat)

/-- The bits below the sign, as one natural number. -/
def magnitude (n : Number) : Nat :=
  n.bits.toNat % 0x8000000000000000

/-- The least magnitude of a normal number, and the leading bit of its
significand. -/
def leadingBit : Nat :=
  0x10000000000000

/-- The magnitude of the infinities: all exponent bits set, no fraction. -/
def infiniteMagnitude : Nat :=
  2047 * leadingBit

def isNaN (n : Number) : Bool :=
  decide (infiniteMagnitude < n.magnitude)

def isInfinite (n : Number) : Bool :=
  decide (n.magnitude = infiniteMagnitude)

def isFinite (n : Number) : Bool :=
  decide (n.magnitude < infiniteMagnitude)

/-- A finite number is its significand times a power of two.  Below the least
normal exponent the implicit leading bit is absent. -/
def significand (n : Number) : Nat :=
  if n.magnitude < leadingBit then n.magnitude else n.magnitude % leadingBit + leadingBit

/-- The power of two that `significand` is multiplied with. -/
def exponent (n : Number) : Int :=
  if n.magnitude < leadingBit then -1074 else (n.magnitude / leadingBit : Nat) - 1075

/-! ## Particular numbers -/

def zero : Number :=
  ⟨0⟩

def one : Number :=
  ⟨0x3FF0000000000000⟩

def nan : Number :=
  ⟨0x7FF8000000000000⟩

def infinity : Number :=
  ⟨0x7FF0000000000000⟩

def negativeInfinity : Number :=
  ⟨0xFFF0000000000000⟩

/-! ## Order and equality -/

/-- The place of a number in the order of numbers.  Both zeros have rank
zero, and a negative number lies as far below as its opposite lies above. -/
def rank (n : Number) : Int :=
  if n.isNegative then -(n.magnitude : Int) else n.magnitude

/-- Numbers compare by rank.  A number that is not a number compares with
nothing, itself included. -/
def compare? (a b : Number) : Option Ordering :=
  if a.isNaN || b.isNaN then none else some (compare a.rank b.rank)

/-- Equality of numbers as numbers: the zeros are equal, and what is not a
number equals nothing. -/
def equals (a b : Number) : Bool :=
  a.compare? b == some .eq

/-- Equality of numbers as stored data, which lets what is not a number equal
itself, so that a record read back equals the record written. -/
def same (a b : Number) : Bool :=
  a.equals b || (a.isNaN && b.isNaN)

/-! ## Whole numbers -/

/-- The largest whole number below which every whole number is a double. -/
def maxExactInteger : Nat :=
  2 * leadingBit - 1

/-- The magnitude of a whole number, when the number is one. -/
def wholeMagnitude? (n : Number) : Option Nat :=
  if !n.isFinite then
    none
  else if 0 ≤ n.exponent then
    some (n.significand * Nat.pow 2 n.exponent.toNat)
  else
    let scale := Nat.pow 2 (-n.exponent).toNat
    if n.significand % scale = 0 then some (n.significand / scale) else none

/-- The integer that a number is, if it is one. -/
def toInt? (n : Number) : Option Int :=
  n.wholeMagnitude?.map fun (whole : Nat) => if n.isNegative then -(whole : Int) else whole

/-- The least natural number not below `n`, kept below `limit`.  Negative
numbers and what is not a number give zero. -/
def ceilingBelow (limit : Nat) (n : Number) : Nat :=
  if n.isNaN || n.isNegative then
    0
  else if n.isInfinite then
    limit
  else if 0 ≤ n.exponent then
    min limit (n.significand * Nat.pow 2 n.exponent.toNat)
  else
    let scale := Nat.pow 2 (-n.exponent).toNat
    min limit ((n.significand + scale - 1) / scale)

/-- The whole quotient of `n` by `d` that is nearest, and of two equally near
ones the even one. -/
def nearestQuotient (n d : Nat) : Nat :=
  if d < 2 * (n % d) || (2 * (n % d) == d && n / d % 2 == 1) then n / d + 1 else n / d

/-- The magnitude of the double nearest to a natural number.  Up to 53 bits
are kept as they are, and more are rounded.  The leading bit is counted by the
exponent too, which is therefore one less here. -/
def nearestMagnitude (n : Nat) : Nat :=
  if n = 0 then
    0
  else if n.log2 ≤ 52 then
    (n.log2 + 1022) * leadingBit + n * Nat.pow 2 (52 - n.log2)
  else
    min infiniteMagnitude
      ((n.log2 + 1022) * leadingBit + nearestQuotient n (Nat.pow 2 (n.log2 - 52)))

/-- The double nearest to an integer. -/
def ofInt (i : Int) : Number :=
  let magnitude := nearestMagnitude i.natAbs
  ⟨UInt64.ofNat (if i < 0 then 0x8000000000000000 + magnitude else magnitude)⟩

/-! ## Arithmetic

Arithmetic is that of the machine float with the same bits. -/

def ofFloat (x : Float) : Number :=
  ⟨x.toBits⟩

def toFloat (n : Number) : Float :=
  Float.ofBits n.bits

instance : Sub Number :=
  ⟨fun a b => ofFloat (a.toFloat - b.toFloat)⟩

instance : Mul Number :=
  ⟨fun a b => ofFloat (a.toFloat * b.toFloat)⟩

instance : Div Number :=
  ⟨fun a b => ofFloat (a.toFloat / b.toFloat)⟩

end Number

end RecordIndex
