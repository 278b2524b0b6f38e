import RecordIndex.Number.Shortest

namespace RecordIndex

/-!
# The text of numbers

Two layouts write the shortest digits of a number.  `plain` never uses an
exponent: it pads with zeros on either side.  `scientific` does so only while
the first digit is near the decimal point, marks a whole number with `.0`,
and otherwise writes one digit, a fraction and a signed exponent.
-/

namespace DecimalPoint

/-- The decimal digits, first digit first. -/
def digitText (d : DecimalPoint) : String :=
  Nat.repr d.digits

/-- The power of ten of the first digit. -/
def leadingExponent (d : DecimalPoint) : Int :=
  d.exponent + (d.digitText.length : Int) - 1

/-- Digits around a decimal point, padded with zeros as far as needed.
`wholeMark` is written after a whole number. -/
def positional (wholeMark : String) (d : DecimalPoint) : String :=
  let digits := d.digitText.toList
  let point := d.leadingExponent + 1
  if point ≤ 0 then
    "0." ++ String.ofList (List.replicate (-point).toNat '0' ++ digits)
  else if (digits.length : Int) ≤ point then
    String.ofList (digits ++ List.replicate (point.toNat - digits.length) '0') ++ wholeMark
  else
    String.ofList (digits.take point.toNat ++ '.' :: digits.drop point.toNat)

/-- One digit, the others after a point, and the exponent with its sign. -/
def exponential (d : DecimalPoint) : String :=
  let sign := if d.leadingExponent < 0 then "-" else "+"
  let mantissa :=
    match d.digitText.toList with
    | [] => ""
    | [digit] => digit.toString
    | digit :: rest => String.ofList (digit :: '.' :: rest)
  mantissa ++ "e" ++ sign ++ Nat.repr d.leadingExponent.natAbs

end DecimalPoint

/-- How a format writes a positive finite number. -/
structure NumberLayout where
  /-- The leading exponents that are written without an exponent. -/
  isPositional : Int -> Bool
  /-- What follows a whole number in positional form. -/
  wholeMark : String

namespace NumberLayout

/-- Always positional, and a whole number looks like an integer. -/
def plain : NumberLayout where
  isPositional := fun _ => true
  wholeMark := ""

/-- Positional from five zeros after the point up to sixteen whole digits. -/
def scientific : NumberLayout where
  isPositional := fun e => decide (-5 ≤ e) && decide (e ≤ 15)
  wholeMark := ".0"

def write (layout : NumberLayout) (d : DecimalPoint) : String :=
  if layout.isPositional d.leadingExponent then d.positional layout.wholeMark else d.exponential

end NumberLayout

namespace Number

/-- A finite number in a layout.  Zero has no shortest digits of its own and
keeps its sign. -/
def writeFinite (layout : NumberLayout) (n : Number) : String :=
  let sign := if n.isNegative then "-" else ""
  if n.magnitude = 0 then sign ++ "0" ++ layout.wholeMark
  else sign ++ layout.write n.point.shortest

/-- The text of a number inside a sentence, where infinity is `inf`. -/
def sentenceText (n : Number) : String :=
  if n.isNaN then "NaN"
  else if n.isInfinite then if n.isNegative then "-inf" else "inf"
  else n.writeFinite .plain

/-- The text of a number as a value, where infinity is spelled out. -/
def text (n : Number) : String :=
  if n.isNaN then "NaN"
  else if n.isInfinite then if n.isNegative then "-Infinity" else "Infinity"
  else n.writeFinite .plain

end Number

/-- The text of a single inside a sentence.  Its digits are the shortest for
its own precision. -/
def Single.sentenceText (x : Single) : String :=
  let sign := if x.isNegative then "-" else ""
  if x.isNaN then "NaN"
  else if x.isInfinite then sign ++ "inf"
  else if x.magnitude = 0 then sign ++ "0"
  else sign ++ NumberLayout.plain.write x.point.shortest

end RecordIndex
