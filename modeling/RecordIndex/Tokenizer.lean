import RecordIndex.Text.Lowercase
import RecordIndex.Text.Words

namespace RecordIndex

/-!
# Tokens

Full-text search compares texts by their tokens: the words of a text in lower
case, without the stop words, which are too common to tell texts apart.
-/

/-- A way to split texts into tokens. -/
structure Tokenizer where
  /-- Lower-case words that are no tokens. -/
  stopWords : List String
deriving DecidableEq

namespace Tokenizer

/-- The stop words of English that are used unless others are given. -/
def defaultStopWords : List String :=
  ["a", "an", "and", "are", "as", "at", "be", "but", "by", "for", "from", "has", "he", "if",
    "in", "into", "is", "it", "its", "no", "not", "of", "on", "or", "such", "that", "the",
    "their", "then", "there", "these", "they", "this", "to", "was", "will", "with"]

/-- A tokenizer without the given words, whatever their case. -/
def ofStopWords (words : List String) : Tokenizer where
  stopWords := words.map Lowercase.lower

/-- The tokens of a text in order of appearance, repeated ones included. -/
def tokens (tokenizer : Tokenizer) (text : String) : List String :=
  (Words.words (Lowercase.lower text)).filter fun word => !tokenizer.stopWords.contains word

/-- The terms that a text is indexed under.  A text without any token is kept
whole, so that it can still be looked up. -/
def terms (tokenizer : Tokenizer) (text : String) : List String :=
  let tokens := tokenizer.tokens text
  if tokens.isEmpty then [text] else tokens

end Tokenizer

end RecordIndex
