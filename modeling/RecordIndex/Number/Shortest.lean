import RecordIndex.Number.Single

namespace RecordIndex

/-!
# Shortest decimal digits

A binary floating-point number stands for an interval of reals: those that
lie nearer to it than to any other number of its format.  Its shortest
decimal form is the coarsest decimal grid `10 ^ k` with a point inside that
interval, and on that grid the point nearest to the number.

If any point of a grid lies in the interval, then so does one of the two grid
points next to the number.  Hence each grid is settled by testing two
candidates in exact integer arithmetic, and the search goes from coarse grids
to fine ones until the first hit.
-/

/-- A positive binary number `significand * 2 ^ exponent` together with how
far the interval that rounds to it reaches.  The interval reaches half a unit
to both sides, except that it reaches only a quarter unit down when
`narrowBelow` is set: directly above a power of two the numbers below lie
closer together. -/
structure BinaryPoint where
  significand : Nat
  exponent : Int
  narrowBelow : Bool
deriving DecidableEq

/-- The decimal number `digits * 10 ^ exponent`. -/
structure DecimalPoint where
  digits : Nat
  exponent : Int
deriving DecidableEq

namespace BinaryPoint

/-- Numerator of the point in quarter units, over the denominator of
`scale`. -/
def quarters (p : BinaryPoint) : Nat :=
  4 * p.significand

/-- The point, the lower and the upper end of its interval as numerators over
one common denominator, all measured in units of `10 ^ k`. -/
def scaled (p : BinaryPoint) (k : Int) : Nat × Nat × Nat × Nat :=
  let up := Nat.pow 2 (p.exponent - 2).toNat * Nat.pow 10 (-k).toNat
  let down := Nat.pow 2 (2 - p.exponent).toNat * Nat.pow 10 k.toNat
  let below := if p.narrowBelow then 1 else 2
  (p.quarters * up, (p.quarters - below) * up, (p.quarters + 2) * up, down)

/-- The grid point at `10 ^ k` that reads back as `p` and is nearest to it, if
there is one.  The ends of the interval count when the significand is even,
because a tie rounds to the even significand. -/
def onGrid? (p : BinaryPoint) (k : Int) : Option DecimalPoint :=
  let (point, low, high, unit) := p.scaled k
  let inside := fun digits : Nat =>
    if p.significand % 2 = 0 then
      low ≤ digits * unit && digits * unit ≤ high
    else
      low < digits * unit && digits * unit < high
  let floor := point / unit
  let upperNearer := unit < 2 * (point % unit)
  match inside floor && 0 < floor, inside (floor + 1) with
  | true, true => some ⟨if upperNearer then floor + 1 else floor, k⟩
  | true, false => some ⟨floor, k⟩
  | false, true => some ⟨floor + 1, k⟩
  | false, false => none

/-- Search the grids from `10 ^ k` downwards, at most `steps` of them. -/
def search (p : BinaryPoint) : Nat -> Int -> Option DecimalPoint
  | 0, _ => none
  | steps + 1, k =>
      match p.onGrid? k with
      | some found => some found
      | none => search p steps (k - 1)

/-- A power of ten that is coarser than every grid with a hit: three decimal
places above the leading digit, estimated from the binary length. -/
def coarsest (p : BinaryPoint) : Int :=
  ((p.significand.log2 : Int) + p.exponent + 1) * 30103 / 100000 + 3

/-- The shortest decimal that reads back as `p`.  Seventeen digits always
suffice for a double, and `coarsest` starts at most five places above them,
so the search of thirty grids ends with a hit. -/
def shortest (p : BinaryPoint) : DecimalPoint :=
  (p.search 30 p.coarsest).getD ⟨p.significand, 0⟩

end BinaryPoint

/-- The point of a finite nonzero number, with its interval. -/
def Number.point (n : Number) : BinaryPoint where
  significand := n.significand
  exponent := n.exponent
  narrowBelow := n.significand == Number.leadingBit && -1074 < n.exponent

/-- The point of a finite nonzero single, with its interval. -/
def Single.point (x : Single) : BinaryPoint where
  significand := x.significand
  exponent := x.exponent
  narrowBelow := x.significand == Single.leadingBit && -149 < x.exponent

end RecordIndex
