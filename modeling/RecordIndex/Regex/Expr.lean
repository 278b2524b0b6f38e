import RecordIndex.Unicode.Property

namespace RecordIndex

/-!
# Regular expressions

The syntax tree of a regular expression, once its flags have been resolved:
case, line mode and greed are decided for every part, so the tree means the
same wherever it stands.

An expression that would grow too large is refused.  This limit is an
idealisation: the `regex` library measures the automaton that it builds, while
here the parts of the tree are counted.  Small expressions pass both measures,
but around the limit they may differ.  A repeated class of many spans, such as
`\w{100}`, counts much here and is refused, and a long repetition of a class
of few spans, such as `.{100000}`, counts little and is accepted.  No statement
about the database depends on which expressions the limit admits.
-/

/-- Characters that make up words. -/
def wordChars (asciiOnly : Bool) : CharSet :=
  if asciiOnly then .ofText "30-39 41-5a 5f 61-7a"
  else .unions [CharProperty.alphabetic, Category.marks, CharProperty.joinControl,
    Category.membersOf [.decimalNumber, .connectorPunctuation]]

/-- What an assertion asks of the word characters on its two sides. -/
inductive WordRule where
  | boundary
  | notBoundary
  | start
  | finish
  /-- No word character before. -/
  | startHalf
  /-- No word character behind. -/
  | finishHalf
deriving DecidableEq

namespace WordRule

def holds (rule : WordRule) (before behind : Bool) : Bool :=
  match rule with
  | .boundary => before != behind
  | .notBoundary => before == behind
  | .start => !before && behind
  | .finish => before && !behind
  | .startHalf => !before
  | .finishHalf => !behind

end WordRule

/-- A condition on a position between two characters. -/
inductive Assertion where
  | textStart
  | textEnd
  | lineStart
  | lineEnd
  /-- Lines may end with a carriage return, a line feed or both. -/
  | anyLineStart
  | anyLineEnd
  | word (rule : WordRule) (asciiOnly : Bool)
deriving DecidableEq

namespace Assertion

/-- Whether an assertion holds between two characters.  At an end of the text
there is no character. -/
def holds (assertion : Assertion) (before behind : Option Char) : Bool :=
  match assertion with
  | .textStart => before.isNone
  | .textEnd => behind.isNone
  | .lineStart => before.isNone || before == some '\n'
  | .lineEnd => behind.isNone || behind == some '\n'
  | .anyLineStart =>
      before.isNone || before == some '\n' || (before == some '\r' && behind != some '\n')
  | .anyLineEnd =>
      behind.isNone || behind == some '\r' || (behind == some '\n' && before != some '\r')
  | .word rule asciiOnly =>
      let isWord := fun c : Option Char => c.any (wordChars asciiOnly).contains
      rule.holds (isWord before) (isWord behind)

end Assertion

/-- A regular expression. -/
inductive Expr where
  | empty
  | chars (set : CharSet)
  | assertion (condition : Assertion)
  /-- A group whose text is remembered under its number. -/
  | group (number : Nat) (body : Expr)
  | seq (first second : Expr)
  | alt (first second : Expr)
  /-- At least `least` copies of the body and at most `most`, if there is a
  limit.  A greedy repetition prefers more copies. -/
  | repeated (body : Expr) (least : Nat) (most : Option Nat) (greedy : Bool)

namespace Expr

/-- The expression may match without reading a character. -/
def nullable : Expr -> Bool
  | .empty => true
  | .chars _ => false
  | .assertion _ => true
  | .group _ body => body.nullable
  | .seq first second => first.nullable && second.nullable
  | .alt first second => first.nullable || second.nullable
  | .repeated body least _ _ => least == 0 || body.nullable

/-- The number of parts of an expression when every repetition is written out.
A set of characters counts by its spans. -/
def size : Expr -> Nat
  | .empty => 1
  | .chars set => max 1 (2 * set.spanCount - 1)
  | .assertion _ => 1
  | .group _ body => body.size + 2
  | .seq first second => first.size + second.size
  | .alt first second => first.size + second.size + 2
  | .repeated body least most _ =>
      match most with
      | none => max least 1 * body.size + 3
      | some most => most * (body.size + 1) + 1

/-- The largest expression that is accepted: ten mebibytes, the limit that the
`regex` library sets by default, at an assumed 32 bytes for each part. -/
def sizeLimit : Nat :=
  10 * 1024 * 1024 / 32

/-- One of several expressions, the first preferred. -/
def alternatives : List Expr -> Expr
  | [] => .empty
  | [only] => only
  | first :: rest => .alt first (alternatives rest)

/-- Several expressions one after the other. -/
def sequence : List Expr -> Expr
  | [] => .empty
  | [only] => only
  | first :: rest => .seq first (sequence rest)

end Expr

end RecordIndex
