import RecordIndex.Json
import RecordIndex.Number.Decimal

namespace RecordIndex
namespace Json

/-!
# Reading JSON text

A reader takes the characters that are left and gives back a part and the
characters behind it.  Nesting is followed by recursion whose depth the number
of characters bounds, since every level of nesting spends an opening bracket.

A literal without a point or an exponent is an integer while it fits in 64
bits; negative zero is a decimal, because an integer has no sign to keep.  The
last of several fields with one name is the one that counts.  What is accepted
and what it is read as follows the `serde_json` library.
-/

def isBlank (c : Char) : Bool :=
  c = ' ' || c = '\n' || c = '\t' || c = '\r'

def skipBlanks (cs : List Char) : List Char :=
  cs.dropWhile isBlank

/-- Four hexadecimal digits. -/
def readUnit? : List Char -> Option (Nat × List Char)
  | a :: b :: c :: d :: rest => (Hexadecimal.natural? [a, b, c, d]).map fun unit => (unit, rest)
  | _ => none

/-- The character an escaped code unit stands for.  A high surrogate needs the
low surrogate behind it, and a surrogate on its own is refused. -/
def readCodePoint? (cs : List Char) : Option (Char × List Char) := do
  let (unit, rest) ← readUnit? cs
  if unit < 0xD800 || 0xDFFF < unit then
    return (Char.ofNat unit, rest)
  else if unit < 0xDC00 then
    match rest with
    | '\\' :: 'u' :: rest =>
        let (low, rest) ← readUnit? rest
        if 0xDC00 ≤ low && low ≤ 0xDFFF then
          return (Char.ofNat (0x10000 + (unit - 0xD800) * 1024 + (low - 0xDC00)), rest)
        else none
    | _ => none
  else none

/-- The character behind a backslash. -/
def readEscape? : List Char -> Option (Char × List Char)
  | '"' :: rest => some ('"', rest)
  | '\\' :: rest => some ('\\', rest)
  | '/' :: rest => some ('/', rest)
  | 'b' :: rest => some ('\x08', rest)
  | 'f' :: rest => some ('\x0c', rest)
  | 'n' :: rest => some ('\n', rest)
  | 'r' :: rest => some ('\r', rest)
  | 't' :: rest => some ('\t', rest)
  | 'u' :: rest => readCodePoint? rest
  | _ => none

/-- The rest of a string behind its opening quote.  `text` holds what has been
read, last character first. -/
def readString? (fuel : Nat) (text : List Char) (cs : List Char) :
    Option (String × List Char) :=
  match fuel with
  | 0 => none
  | fuel + 1 =>
      match cs with
      | [] => none
      | '"' :: rest => some (String.ofList text.reverse, rest)
      | '\\' :: rest =>
          match readEscape? rest with
          | some (c, rest) => readString? fuel (c :: text) rest
          | none => none
      | c :: rest => if c.toNat < 32 then none else readString? fuel (c :: text) rest

def digitValue (c : Char) : Nat :=
  c.toNat - 48

/-- The exponent behind `e`: a sign and at least one digit. -/
def readExponent? (cs : List Char) : Option (Int × List Char) :=
  let (negative, cs) :=
    match cs with
    | '+' :: rest => (false, rest)
    | '-' :: rest => (true, rest)
    | _ => (false, cs)
  let digits := cs.takeWhile Char.isDigit
  if digits.isEmpty then none
  else
    let size := digits.foldl (fun n c => n * 10 + digitValue c) 0
    some (if negative then -(size : Int) else size, cs.dropWhile Char.isDigit)

/-- The fraction and the exponent behind the whole digits of a literal. -/
def readDecimal? (negative : Bool) (whole : DecimalDigits) (cs : List Char) :
    Option (Json × List Char) := do
  let (digits, cs) ←
    match cs with
    | '.' :: rest =>
        let fraction := rest.takeWhile Char.isDigit
        if fraction.isEmpty then none
        else some (fraction.foldl (fun d c => d.fractionDigit (digitValue c)) whole,
          rest.dropWhile Char.isDigit)
    | _ => some (whole, cs)
  let (exponent, cs) ←
    match cs with
    | 'e' :: rest => readExponent? rest
    | 'E' :: rest => readExponent? rest
    | _ => some (0, cs)
  let number ← Number.ofDigits? negative { digits with exponent := digits.exponent + exponent }
  return (.decimal number, cs)

/-- A number behind its sign. -/
def readNumber? (negative : Bool) (cs : List Char) : Option (Json × List Char) :=
  let digits := cs.takeWhile Char.isDigit
  let rest := cs.dropWhile Char.isDigit
  match digits with
  | [] => none
  | '0' :: _ :: _ => none
  | _ =>
      let whole := digits.foldl (fun d c => d.wholeDigit (digitValue c)) DecimalDigits.start
      let isDecimal :=
        match rest with
        | c :: _ => c = '.' || c = 'e' || c = 'E'
        | [] => false
      if isDecimal || whole.full then readDecimal? negative whole rest
      else if !negative then some (.integer whole.significand, rest)
      else if 0 < whole.significand && whole.significand ≤ 0x8000000000000000 then
        some (.integer (-(whole.significand : Int)), rest)
      else readDecimal? negative whole rest

mutual

/-- One value, with the blanks before it. -/
def readValue? (fuel : Nat) (cs : List Char) : Option (Json × List Char) :=
  match fuel with
  | 0 => none
  | fuel + 1 =>
      match skipBlanks cs with
      | 'n' :: 'u' :: 'l' :: 'l' :: rest => some (.null, rest)
      | 't' :: 'r' :: 'u' :: 'e' :: rest => some (.bool true, rest)
      | 'f' :: 'a' :: 'l' :: 's' :: 'e' :: rest => some (.bool false, rest)
      | '"' :: rest => (readString? (rest.length + 1) [] rest).map fun (s, rest) => (.string s, rest)
      | '[' :: rest =>
          match skipBlanks rest with
          | ']' :: rest => some (.array [], rest)
          | _ => (readItems? fuel rest).map fun (items, rest) => (.array items, rest)
      | '\x7b' :: rest =>
          match skipBlanks rest with
          | '\x7d' :: rest => some (.object [], rest)
          | _ => (readFields? fuel [] rest).map fun (fields, rest) => (.object fields, rest)
      | '-' :: rest => readNumber? true rest
      | cs => readNumber? false cs
termination_by structural fuel

/-- The items of an array up to its closing bracket. -/
def readItems? (fuel : Nat) (cs : List Char) : Option (List Json × List Char) :=
  match fuel with
  | 0 => none
  | fuel + 1 =>
      match readValue? fuel cs with
      | none => none
      | some (item, rest) =>
          match skipBlanks rest with
          | ',' :: rest => (readItems? fuel rest).map fun (items, rest) => (item :: items, rest)
          | ']' :: rest => some ([item], rest)
          | _ => none
termination_by structural fuel

/-- The fields of an object up to its closing brace, added to those read
before. -/
def readFields? (fuel : Nat) (fields : List (String × Json)) (cs : List Char) :
    Option (List (String × Json) × List Char) :=
  match fuel with
  | 0 => none
  | fuel + 1 =>
      match skipBlanks cs with
      | '"' :: rest =>
          match readString? (rest.length + 1) [] rest with
          | none => none
          | some (name, rest) =>
              match skipBlanks rest with
              | ':' :: rest =>
                  match readValue? fuel rest with
                  | none => none
                  | some (value, rest) =>
                      let fields := Rows.insert name value fields
                      match skipBlanks rest with
                      | ',' :: rest => readFields? fuel fields rest
                      | '\x7d' :: rest => some (fields, rest)
                      | _ => none
              | _ => none
      | _ => none
termination_by structural fuel

end

/-- The value of a JSON text, or nothing when the text is malformed. -/
def parse? (text : String) : Option Json :=
  let cs := text.toList
  match readValue? (2 * cs.length + 1) cs with
  | some (value, rest) => if (skipBlanks rest).isEmpty then some value else none
  | none => none

end Json
end RecordIndex
