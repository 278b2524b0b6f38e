import RecordIndex.Unicode.Property
import RecordIndex.Unicode.Script

namespace RecordIndex

/-!
# Word-breaking classes

The classes by which the boundaries between words are found.  Scripts that
are written without spaces have no class of their own: in them every character
stands alone.  They are the classes of the `unicode-segmentation` library.
-/

/-- What a character does to the boundaries next to it. -/
inductive WordBreak where
  | carriageReturn
  | lineFeed
  | newline
  /-- A mark or an invisible character, which belongs to what stands before. -/
  | mark
  /-- The joiner, which also ties a pictograph to what stands before it. -/
  | joiner
  | regionalIndicator
  | katakana
  | hebrewLetter
  | letter
  | singleQuote
  | doubleQuote
  /-- Punctuation allowed inside words and inside numbers. -/
  | midWordOrNumber
  /-- Punctuation allowed inside words. -/
  | midWord
  /-- Punctuation allowed inside numbers. -/
  | midNumber
  | digit
  /-- Characters that extend words and numbers, such as the low line. -/
  | connector
  | space
  | other
deriving DecidableEq

namespace WordBreak

/-- Invisible signs that begin a number. -/
def numberSigns : CharSet :=
  .ofText "600-605 6dd 890-891 8e2 110bd 110cd"

def marks : CharSet :=
  .diff
    (.unions [CharProperty.graphemeExtend, CharProperty.emojiModifier,
      Category.membersOf [.spacingMark, .format]])
    (.union numberSigns (.ofText "70f 200b 200d"))

def digits : CharSet :=
  .unions [Category.members .decimalNumber, numberSigns, .ofText "66b 19da"]

def katakanaLetters : CharSet :=
  .ofText "
    3031-3035 309b-309c 30a0-30fa 30fc-30ff 31f0-31ff 32d0-32fe 3300-3357 ff66-ff9d 1aff0-1aff3
    1aff5-1affb 1affd-1affe 1b000 1b120-1b122 1b155 1b164-1b167"

def hebrewLetters : CharSet :=
  .ofText "
    5d0-5ea 5ef-5f2 fb1d fb1f-fb28 fb2a-fb36 fb38-fb3c fb3e fb40-fb41 fb43-fb44 fb46-fb4f"

/-- Letters of scripts that are written without spaces between words. -/
def unspacedLetters : CharSet :=
  .ofText "
    e01-e3a e40-e4e e81-e82 e84 e86-e8a e8c-ea3 ea5 ea7-ebd ec0-ec4 ec6 ec8-ece edc-edf 1000-103f
    1050-108f 109a-109f 1780-17d3 17d7 17dc-17dd 1950-196d 1970-1974 1980-19ab 19b0-19c9 19da
    19de-19df 1a20-1a5e 1a60-1a7c 1aa0-1aad a9e0-a9ef a9fa-a9fe aa60-aac2 aadb-aadf 11700-1171a
    1171d-1172b 1173a-1173b 1173f-11746"

def hiragana : CharSet :=
  .ofText "
    3041-3096 309d-309f 1b001-1b11f 1b132 1b150-1b152 1f200"

def letters : CharSet :=
  .union
    (CharProperty.alphabetic.diff (.unions [CharProperty.ideographic, hiragana, katakanaLetters,
      hebrewLetters, unspacedLetters, marks]))
    (.ofText "
      b8 2c2-2c5 2d2-2d7 2de-2df 2e5-2eb 2ed 2ef-2ff 55a-55c 55e 58a 5f3 70f a708-a716 a720-a721
      a789-a78a ab5b")

def connectors : CharSet :=
  .ofText "5f 202f 203f-2040 2054 fe33-fe34 fe4d-fe4f ff3f"

def midWords : CharSet :=
  .ofText "3a b7 387 55f 5f4 2027 fe13 fe55 ff1a"

def midNumbers : CharSet :=
  .ofText "
    2c 3b 37e 589 60c-60d 66c 7f8 2044 fe50 fe54 ff0c ff1b"

def midWordsOrNumbers : CharSet :=
  .ofText "2e 2018-2019 2024 fe52 ff07 ff0e"

def spaces : CharSet :=
  .ofText "20 1680 2000-2006 2008-200a 205f 3000"

def newlines : CharSet :=
  .ofText "b-c 85 2028-2029"

/-- The classes that are sets, each with its characters. -/
def classes : List (CharSet × WordBreak) :=
  [(newlines, newline),
    (marks, mark),
    (CharProperty.regionalIndicator, regionalIndicator),
    (katakanaLetters, katakana),
    (hebrewLetters, hebrewLetter),
    (letters, letter),
    (midWordsOrNumbers, midWordOrNumber),
    (midWords, midWord),
    (midNumbers, midNumber),
    (digits, digit),
    (connectors, connector),
    (spaces, space)]

/-- The class of an ASCII character. -/
def ofAscii (c : Char) : WordBreak :=
  if c.isAlpha then letter
  else if c.isDigit then digit
  else if c = ' ' then space
  else if c = '_' then connector
  else if c = '\r' then carriageReturn
  else if c = '\n' then lineFeed
  else if c = '\x0b' || c = '\x0c' then newline
  else if c = '\x27' then singleQuote
  else if c = '"' then doubleQuote
  else if c = '.' then midWordOrNumber
  else if c = ':' then midWord
  else if c = ',' || c = ';' then midNumber
  else other

/-- The class of a character. -/
def ofChar (c : Char) : WordBreak :=
  if c.toNat < 128 then ofAscii c
  else if c = '\u200d' then joiner
  else ((classes.find? fun entry => entry.1.contains c).map Prod.snd).getD other

end WordBreak

end RecordIndex
