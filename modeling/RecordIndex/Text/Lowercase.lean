import RecordIndex.Unicode.Case
import RecordIndex.Unicode.Property

namespace RecordIndex

/-!
# Lower case

The lower case of a text, by the full mapping of Unicode.  Two capitals need
more than a look at the character itself: the dotted capital I becomes two
characters, and a capital sigma that ends a word becomes the final sigma.
-/

namespace Lowercase

/-- The nearest character that is not passed over is a cased one. -/
def meetsCased (cs : List Char) : Bool :=
  match cs.dropWhile CharProperty.caseIgnorable.contains with
  | [] => false
  | c :: _ => CharProperty.cased.contains c

/-- A sigma between these characters ends a word: `before` is what precedes
it, nearest character first, and `after` is what follows. -/
def endsWord (before after : List Char) : Bool :=
  meetsCased before && !meetsCased after

/-- The lower case of one character among its neighbours. -/
def lowerChar (before : List Char) (c : Char) (after : List Char) : List Char :=
  if c.toNat < 128 then [c.toLower]
  else if c = 'Σ' then [if endsWord before after then 'ς' else 'σ']
  else if c = 'İ' then ['i', '\u0307']
  else [LetterCase.toLower c]

/-- The lower case of a row of characters that stands behind `before`. -/
def lowerFrom (before : List Char) : List Char -> List Char
  | [] => []
  | c :: after => lowerChar before c after ++ lowerFrom (c :: before) after

def lower (text : String) : String :=
  String.ofList (lowerFrom [] text.toList)

end Lowercase

end RecordIndex
