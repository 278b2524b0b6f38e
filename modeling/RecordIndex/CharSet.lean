import RecordIndex.Text.Hexadecimal

namespace RecordIndex

/-!
# Sets of characters

A set of characters is built from spans of code points by set operations.
The character properties of Unicode are given as text, one word for each span
in hexadecimal: `41` is a single code point, `41-5a` a run and `100-12e/2`
every second code point of a run.  Scripts alternate upper and lower case
often enough to make the last form worth having.
-/

/-- The code points from `first` to `last` in steps of `step`. -/
structure CodePointSpan where
  first : Nat
  last : Nat
  step : Nat
deriving DecidableEq

namespace CodePointSpan

def contains (span : CodePointSpan) (codePoint : Nat) : Bool :=
  decide (span.first ≤ codePoint) && decide (codePoint ≤ span.last) &&
    decide ((codePoint - span.first) % span.step = 0)

/-- A row of characters cut into pieces at every mark. -/
def pieces (isMark : Char -> Bool) : List Char -> List (List Char)
  | [] => [[]]
  | c :: rest =>
      if isMark c then [] :: pieces isMark rest
      else
        match pieces isMark rest with
        | [] => [[c]]
        | piece :: later => (c :: piece) :: later

/-- The words of a text, divided by white space. -/
def words (text : String) : List (List Char) :=
  (pieces Char.isWhitespace text.toList).filter fun word => !word.isEmpty

/-- The span that a word spells: `first`, `first-last` or `first-last/step`. -/
def ofWord? (word : List Char) : Option CodePointSpan :=
  match pieces (fun c => c = '-' || c = '/') word with
  | [first] => (Hexadecimal.natural? first).map fun first => ⟨first, first, 1⟩
  | [first, last] => do return ⟨← Hexadecimal.natural? first, ← Hexadecimal.natural? last, 1⟩
  | [first, last, step] => do
      return ⟨← Hexadecimal.natural? first, ← Hexadecimal.natural? last,
        ← Hexadecimal.natural? step⟩
  | _ => none

end CodePointSpan

/-- A set of characters. -/
inductive CharSet where
  | spans (parts : List CodePointSpan)
  | union (first second : CharSet)
  | inter (first second : CharSet)
  | complement (set : CharSet)
  /-- The characters that have one of their mates in the set. -/
  | upTo (mates : Char -> List Char) (set : CharSet)

namespace CharSet

def contains : CharSet -> Char -> Bool
  | .spans parts, c => parts.any fun span => span.contains c.toNat
  | .union first second, c => first.contains c || second.contains c
  | .inter first second, c => first.contains c && second.contains c
  | .complement set, c => !set.contains c
  | .upTo mates set, c => (mates c).any set.contains

/-- The number of spans that a set is built from. -/
def spanCount : CharSet -> Nat
  | .spans parts => parts.length
  | .union first second => first.spanCount + second.spanCount
  | .inter first second => first.spanCount + second.spanCount
  | .complement set => set.spanCount
  | .upTo _ set => set.spanCount

def empty : CharSet :=
  .spans []

def all : CharSet :=
  .complement empty

/-- The characters from `first` to `last`. -/
def range (first last : Char) : CharSet :=
  .spans [⟨first.toNat, last.toNat, 1⟩]

def singleton (c : Char) : CharSet :=
  range c c

/-- The characters of one set that another does not have. -/
def diff (first second : CharSet) : CharSet :=
  .inter first (.complement second)

def unions (sets : List CharSet) : CharSet :=
  sets.foldr .union empty

/-- The set that a list of spans spells. -/
def ofText (text : String) : CharSet :=
  .spans ((CodePointSpan.words text).filterMap CodePointSpan.ofWord?)

end CharSet

/-- A correspondence between characters that moves whole spans: the span of
each entry is carried to the span that starts at the second component. -/
structure CharMap where
  entries : List (CodePointSpan × Nat)

namespace CharMap

/-- The character that corresponds to a character, if one does. -/
def image? (map : CharMap) (c : Char) : Option Char :=
  (map.entries.find? fun entry => entry.1.contains c.toNat).map fun (span, target) =>
    Char.ofNat (target + (c.toNat - span.first))

/-- The characters that a character corresponds to. -/
def preimages (map : CharMap) (c : Char) : List Char :=
  map.entries.filterMap fun (span, target) =>
    let source := span.first + (c.toNat - target)
    if decide (target ≤ c.toNat) && span.contains source then some (Char.ofNat source) else none

/-- The entry that a word spells, such as `41-5a>61`. -/
def entryOfWord? (word : List Char) : Option (CodePointSpan × Nat) :=
  match CodePointSpan.pieces (fun c => c = '>') word with
  | [span, target] => do return (← CodePointSpan.ofWord? span, ← Hexadecimal.natural? target)
  | _ => none

/-- The correspondence that a list of entries spells. -/
def ofText (text : String) : CharMap where
  entries := (CodePointSpan.words text).filterMap entryOfWord?

end CharMap

end RecordIndex
