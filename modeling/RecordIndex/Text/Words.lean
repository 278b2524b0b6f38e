import RecordIndex.Unicode.WordBreak

namespace RecordIndex

/-!
# Words

A text is cut into segments at its word boundaries, and the segments that
hold a letter or a digit are its words.  Punctuation may stand inside a word:
an apostrophe between letters or a comma between digits joins what is on both
sides of it, but only once the character behind it is known.  Such punctuation
is held back together with the marks on it, and either joins the segment or
becomes a segment of its own.

The boundaries are those of Unicode, and the words those that `unicode_words`
of the `unicode-segmentation` library yields.  What is proved of tokens needs
but one fact about this way to split a text: behind an at sign that begins a
word there is no letter.
-/

/-- What a segment that has come so far can be joined by. -/
inductive SegmentState where
  /-- By marks only. -/
  | alone
  /-- By nothing. -/
  | closed
  /-- By a line feed only. -/
  | carriageReturn
  | space
  | letter
  | hebrewLetter
  | digit
  | katakana
  | connector
  /-- An odd number of regional indicators, which the next one completes. -/
  | halfFlag
  /-- A Hebrew letter and a single quote, which may end the word. -/
  | hebrewQuote
  /-- Punctuation is held back until a letter follows. -/
  | expectsLetter
  /-- A double quote is held back until a Hebrew letter follows. -/
  | expectsHebrewLetter
  /-- Punctuation is held back until a digit follows. -/
  | expectsDigit
deriving DecidableEq

namespace SegmentState

/-- The state after the first character of a segment. -/
def start : WordBreak -> SegmentState
  | .carriageReturn => .carriageReturn
  | .lineFeed => .closed
  | .newline => .closed
  | .space => .space
  | .letter => .letter
  | .hebrewLetter => .hebrewLetter
  | .digit => .digit
  | .katakana => .katakana
  | .connector => .connector
  | .regionalIndicator => .halfFlag
  | _ => .alone

/-- The character behind the held-back punctuation is still open. -/
def holdsBack : SegmentState -> Bool
  | .expectsLetter => true
  | .expectsHebrewLetter => true
  | .expectsDigit => true
  | _ => false

/-- The state after a mark.  Marks join any segment but a line break, and a
space with a mark is no longer followed by further spaces. -/
def afterMark? : SegmentState -> Option SegmentState
  | .closed => none
  | .carriageReturn => none
  | .space => some .alone
  | state => some state

/-- The state after a letter and what may follow one. -/
def afterLetter? (isHebrew : Bool) : WordBreak -> Option SegmentState
  | .letter => some .letter
  | .hebrewLetter => some .hebrewLetter
  | .digit => some .digit
  | .connector => some .connector
  | .doubleQuote => if isHebrew then some .expectsHebrewLetter else none
  | .singleQuote => some (if isHebrew then .hebrewQuote else .expectsLetter)
  | .midWord => some .expectsLetter
  | .midWordOrNumber => some .expectsLetter
  | _ => none

/-- The state after a digit and what may follow one. -/
def afterDigit? : WordBreak -> Option SegmentState
  | .digit => some .digit
  | .letter => some .letter
  | .hebrewLetter => some .hebrewLetter
  | .connector => some .connector
  | .midNumber => some .expectsDigit
  | .midWordOrNumber => some .expectsDigit
  | .singleQuote => some .expectsDigit
  | _ => none

/-- The state after the next character, or nothing when the segment ends
before it. -/
def next? (state : SegmentState) (next : WordBreak) : Option SegmentState :=
  match next with
  | .mark => state.afterMark?
  | .joiner => state.afterMark?
  | _ =>
      match state with
      | .carriageReturn => if next = .lineFeed then some .closed else none
      | .space => if next = .space then some .space else none
      | .letter => afterLetter? false next
      | .hebrewLetter => afterLetter? true next
      | .digit => afterDigit? next
      | .katakana =>
          match next with
          | .katakana => some .katakana
          | .connector => some .connector
          | _ => none
      | .connector =>
          match next with
          | .connector => some .connector
          | .letter => some .letter
          | .hebrewLetter => some .hebrewLetter
          | .digit => some .digit
          | .katakana => some .katakana
          | _ => none
      | .halfFlag => if next = .regionalIndicator then some .alone else none
      | .hebrewQuote =>
          match next with
          | .letter => some .letter
          | .hebrewLetter => some .hebrewLetter
          | _ => none
      | .expectsLetter =>
          match next with
          | .letter => some .letter
          | .hebrewLetter => some .hebrewLetter
          | _ => none
      | .expectsHebrewLetter => if next = .hebrewLetter then some .hebrewLetter else none
      | .expectsDigit => if next = .digit then some .digit else none
      | .alone => none
      | .closed => none

end SegmentState

namespace Words

/-- A segment under construction.  Characters are listed last one first. -/
structure Segment where
  state : SegmentState
  taken : List Char
  /-- Punctuation that is held back, with the marks on it. -/
  held : List Char
  /-- The last character is a joiner. -/
  afterJoiner : Bool

namespace Segment

def start (c : Char) : Segment :=
  ⟨.start (.ofChar c), [c], [], WordBreak.ofChar c = .joiner⟩

/-- The segment with one more character, unless it ends before it.  A joiner
ties a pictograph to whatever stands before it. -/
def add? (segment : Segment) (c : Char) : Option Segment :=
  let next := WordBreak.ofChar c
  if segment.afterJoiner && CharProperty.extendedPictographic.contains c then
    some ⟨.alone, c :: segment.held ++ segment.taken, [], false⟩
  else
    (segment.state.next? next).map fun state =>
      if state.holdsBack then ⟨state, segment.taken, c :: segment.held, next = .joiner⟩
      else ⟨state, c :: segment.held ++ segment.taken, [], next = .joiner⟩

/-- The finished segment.  Punctuation still held back stands by itself. -/
def finish (segment : Segment) : List (List Char) :=
  let taken := segment.taken.reverse
  if segment.held.isEmpty then [taken] else [taken, segment.held.reverse]

end Segment

/-- The segments of a row of characters that continues a segment. -/
def segmentsFrom (segment : Segment) : List Char -> List (List Char)
  | [] => segment.finish
  | c :: rest =>
      match segment.add? c with
      | some longer => segmentsFrom longer rest
      | none => segment.finish ++ segmentsFrom (.start c) rest

/-- A text cut at its word boundaries. -/
def segments : List Char -> List (List Char)
  | [] => []
  | c :: rest => segmentsFrom (.start c) rest

/-- Letters and digits of any script. -/
def isAlphanumeric (c : Char) : Bool :=
  if c.toNat < 128 then c.isAlphanum
  else CharProperty.alphabetic.contains c || Category.numbers.contains c

/-- The words of a text in order of appearance. -/
def words (text : String) : List String :=
  ((segments text.toList).filter fun segment => segment.any isAlphanumeric).map String.ofList

end Words

end RecordIndex
