import RecordIndex.Number

namespace RecordIndex

/-!
# Single-precision numbers

Feature vectors are made of IEEE 754 singles, half as wide as the numbers of a
record.  They are kept as bits for the same reason: order and equality are
read off the bits, and arithmetic is that of the machine.
-/

/-- An IEEE 754 single, given by its bits. -/
structure Single where
  bits : UInt32
deriving DecidableEq, Inhabited

namespace Single

/-! ## The fields of the encoding -/

/-- The sign bit.  It is set for negative zero too. -/
def isNegative (x : Single) : Bool :=
  decide (0x80000000 ≤ x.bits.toNat)

/-- The bits below the sign, as one natural number. -/
def magnitude (x : Single) : Nat :=
  x.bits.toNat % 0x80000000

/-- The least magnitude of a normal single, and the leading bit of its
significand. -/
def leadingBit : Nat :=
  0x800000

/-- The magnitude of the infinities: all exponent bits set, no fraction. -/
def infiniteMagnitude : Nat :=
  255 * leadingBit

def isNaN (x : Single) : Bool :=
  decide (infiniteMagnitude < x.magnitude)

def isInfinite (x : Single) : Bool :=
  decide (x.magnitude = infiniteMagnitude)

/-- A finite single is its significand times a power of two.  Below the least
normal exponent the implicit leading bit is absent. -/
def significand (x : Single) : Nat :=
  if x.magnitude < leadingBit then x.magnitude else x.magnitude % leadingBit + leadingBit

/-- The power of two that `significand` is multiplied with. -/
def exponent (x : Single) : Int :=
  if x.magnitude < leadingBit then -149 else (x.magnitude / leadingBit : Nat) - 150

/-! ## Order -/

/-- The place of a single in the order of numbers, with both zeros at zero. -/
def rank (x : Single) : Int :=
  if x.isNegative then -(x.magnitude : Int) else x.magnitude

/-- Singles compare by rank.  A single that is not a number compares with
nothing, itself included. -/
def compare? (x y : Single) : Option Ordering :=
  if x.isNaN || y.isNaN then none else some (compare x.rank y.rank)

/-- Both are numbers and `x` is not above `y`. -/
def atMost (x y : Single) : Bool :=
  (x.compare? y).any Ordering.isLE

/-! ## Arithmetic

Arithmetic is that of the machine float with the same bits. -/

def ofFloat (x : Float32) : Single :=
  ⟨x.toBits⟩

def toFloat (x : Single) : Float32 :=
  Float32.ofBits x.bits

def zero : Single :=
  ⟨0⟩

def one : Single :=
  ⟨0x3F800000⟩

/-- An unpacked float with its significand rounded to the bits of a single, to
the nearest and of two equally near ones to the even one. -/
def round (x : Float.Model.UnpackedFloat) : Float.Model.UnpackedFloat :=
  match x with
  | .finite sign significand exponent _ => .round .binary32 sign significand exponent
  | x => x

/-- The single nearest to a number.  The conversion of the machine has nothing
to prove with, so the number is unpacked, rounded and packed again. -/
def ofNumber (n : Number) : Single :=
  ⟨(Float32.Model.pack (round (Float.Model.ofBits n.bits).unpack)).toBits⟩

/-- The single nearest to a natural number. -/
def ofNat (n : Nat) : Single :=
  ofFloat (Float32.ofNat n)

instance : Add Single :=
  ⟨fun x y => ofFloat (x.toFloat + y.toFloat)⟩

instance : Sub Single :=
  ⟨fun x y => ofFloat (x.toFloat - y.toFloat)⟩

instance : Mul Single :=
  ⟨fun x y => ofFloat (x.toFloat * y.toFloat)⟩

instance : Div Single :=
  ⟨fun x y => ofFloat (x.toFloat / y.toFloat)⟩

def squareRoot (x : Single) : Single :=
  ofFloat x.toFloat.sqrt

/-- The single without its sign. -/
def abs (x : Single) : Single :=
  ⟨x.bits &&& 0x7FFFFFFF⟩

/-- The sum of a list from left to right, rounded at every step. -/
def sum (xs : List Single) : Single :=
  xs.foldl (fun total x => total + x) zero

end Single

end RecordIndex
