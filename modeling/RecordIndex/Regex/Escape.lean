import RecordIndex.Regex.Classes

namespace RecordIndex

/-!
# Flags and escapes

The smallest parts of an expression: single characters, escapes, shorthand
classes and assertions.  What they mean depends on the flags in force, which
an expression may change on its way.

While `ignoreBlanks` is set, white space and comments are passed over between
parts and even between the digits of an escape.
-/

/-- The flags in force at some place of an expression. -/
structure Flags where
  ignoreCase : Bool
  multiLine : Bool
  dotAll : Bool
  swapGreed : Bool
  unicode : Bool
  anyLineEnding : Bool
  ignoreBlanks : Bool
deriving DecidableEq

namespace Flags

def default : Flags :=
  ⟨false, false, false, false, true, false, false⟩

/-- The character sets that one differs from in case only. -/
def foldCase (flags : Flags) (set : CharSet) : CharSet :=
  if !flags.ignoreCase then set
  else if flags.unicode then .upTo LetterCase.mates set
  else .upTo LetterCase.asciiMates set

/-- A class of characters after case and negation are applied, case first.
Without Unicode a class must stay within ASCII. -/
def foldAndNegate? (flags : Flags) (negated : Bool) (set : CharSet) : Option CharSet :=
  let folded := flags.foldCase set
  let result := if negated then .complement folded else folded
  if !flags.unicode && result.contains '\x80' then none else some result

end Flags

/-! ## Blanks and comments -/

def isBlank (c : Char) : Bool :=
  if c.toNat < 128 then c = ' ' || (9 ≤ c.toNat && c.toNat ≤ 13)
  else CharProperty.whiteSpace.contains c

/-- What follows the blanks and comments.  A comment runs to the end of its
line. -/
def dropBlanks (inComment : Bool) : List Char -> List Char
  | [] => []
  | c :: rest =>
      if inComment then dropBlanks (c != '\n') rest
      else if isBlank c then dropBlanks false rest
      else if c = '#' then dropBlanks true rest
      else c :: rest

/-- What follows the blanks and comments, if they are to be ignored. -/
def Flags.skip (flags : Flags) (cs : List Char) : List Char :=
  if flags.ignoreBlanks then dropBlanks false cs else cs

/-- The characters up to a closing brace, and what follows it. -/
def untilBrace? (ignoreBlanks inComment : Bool) :
    List Char -> Option (List Char × List Char)
  | [] => none
  | c :: rest =>
      if inComment then untilBrace? ignoreBlanks (c != '\n') rest
      else if ignoreBlanks && isBlank c then untilBrace? ignoreBlanks false rest
      else if ignoreBlanks && c = '#' then untilBrace? ignoreBlanks true rest
      else if c = '\x7d' then some ([], rest)
      else (untilBrace? ignoreBlanks false rest).map fun (cs, rest) => (c :: cs, rest)

/-! ## Parts -/

/-- A place in the text, before the flags decide what it asks for. -/
inductive Anchor where
  | lineStart
  | lineEnd
  | textStart
  | textEnd
  | word (rule : WordRule)

/-- A part of an expression before the flags are applied. -/
inductive Primitive where
  /-- A character.  `isByte` marks one that is written as two hexadecimal
  digits. -/
  | literal (c : Char) (isByte : Bool)
  | dot
  | anchor (place : Anchor)
  | shorthand (kind : CharClass.Shorthand) (negated : Bool)
  | property (query : CharClass.Query) (negated : Bool)

namespace Primitive

def assertion (flags : Flags) : Anchor -> Assertion
  | .lineStart =>
      if !flags.multiLine then .textStart
      else if flags.anyLineEnding then .anyLineStart else .lineStart
  | .lineEnd =>
      if !flags.multiLine then .textEnd
      else if flags.anyLineEnding then .anyLineEnd else .lineEnd
  | .textStart => .textStart
  | .textEnd => .textEnd
  | .word rule => .word rule (!flags.unicode)

/-- The characters that the dot stands for.  It needs Unicode, because it
reaches beyond ASCII. -/
def dotSet? (flags : Flags) : Option CharSet :=
  if !flags.unicode then none
  else if flags.dotAll then some .all
  else if flags.anyLineEnding then some (.complement (.ofText "a d"))
  else some (.complement (.ofText "a"))

/-- The characters of a class escape. -/
def classSet? (flags : Flags) : Primitive -> Option CharSet
  | .shorthand kind negated =>
      { flags with ignoreCase := false }.foldAndNegate? negated (kind.members (!flags.unicode))
  | .property query negated =>
      if !flags.unicode then none else query.members?.bind (flags.foldAndNegate? negated)
  | _ => none

/-- Without Unicode, two hexadecimal digits stand for a byte, which must be an
ASCII character. -/
def isRefusedByte (flags : Flags) (c : Char) (isByte : Bool) : Bool :=
  !flags.unicode && isByte && decide (128 ≤ c.toNat)

/-- A part as an expression of its own. -/
def expr? (flags : Flags) : Primitive -> Option Expr
  | .literal c isByte =>
      if isRefusedByte flags c isByte then none
      else if flags.unicode || c.toNat < 128 then some (.chars (flags.foldCase (.singleton c)))
      else some (.chars (.singleton c))
  | .dot => (dotSet? flags).map .chars
  | .anchor place => some (.assertion (assertion flags place))
  | part => (part.classSet? flags).map .chars

/-- A character as an item of a bracketed class. -/
def member? (flags : Flags) : Primitive -> Option Char
  | .literal c _ => if flags.unicode || c.toNat < 128 then some c else none
  | _ => none

/-- A part as an item of a bracketed class. -/
def itemSet? (flags : Flags) : Primitive -> Option CharSet
  | .literal c isByte => (member? flags (.literal c isByte)).map .singleton
  | .shorthand kind negated => classSet? flags (.shorthand kind negated)
  | .property query negated => classSet? flags (.property query negated)
  | _ => none

end Primitive

/-! ## Reading escapes

A reader takes the characters that are left and gives back what it has read
and what is left behind it. -/

namespace Escape

/-- The character of a code point, unless it is a surrogate or too large. -/
def charOfCodePoint? (n : Nat) : Option Char :=
  if n < 0xD800 || (0xDFFF < n && n < 0x110000) then some (Char.ofNat n) else none

/-- A fixed number of hexadecimal digits.  Blanks may stand between them. -/
def fixedDigits? (flags : Flags) : Nat -> List Char -> Option (List Char × List Char)
  | 0, cs => some ([], cs)
  | count + 1, cs =>
      match flags.skip cs with
      | [] => none
      | c :: rest => (fixedDigits? flags count rest).map fun (cs, rest) => (c :: cs, rest)

/-- The character behind `x`, `u` or `U`: its code point in braces or in a
fixed number of digits. -/
def hexadecimal? (flags : Flags) (count : Nat) (cs : List Char) :
    Option (Primitive × List Char) := do
  match flags.skip cs with
  | '\x7b' :: rest =>
      let (digits, rest) ← untilBrace? flags.ignoreBlanks false rest
      let c ← (Hexadecimal.natural? digits).bind charOfCodePoint?
      return (.literal c false, flags.skip rest)
  | cs =>
      let (digits, rest) ← fixedDigits? flags count cs
      let c ← (Hexadecimal.natural? digits).bind charOfCodePoint?
      return (.literal c (count = 2), flags.skip rest)

/-- Split at the first place where a mark stands. -/
def splitAt? (mark : List Char) : List Char -> Option (List Char × List Char)
  | [] => none
  | c :: rest =>
      if mark.isPrefixOf (c :: rest) then some ([], (c :: rest).drop mark.length)
      else (splitAt? mark rest).map fun (before, behind) => (c :: before, behind)

/-- The property asked for between braces.  An inequality sign asks for the
same characters as an equality sign. -/
def queryOf (text : List Char) : CharClass.Query :=
  match splitAt? ['!', '='] text with
  | some (property, value) => .valued property value
  | none =>
      match splitAt? [':'] text with
      | some (property, value) => .valued property value
      | none =>
          match splitAt? ['='] text with
          | some (property, value) => .valued property value
          | none => .named text

/-- The property behind `p` or `P`: one letter, or a query in braces. -/
def property? (flags : Flags) (negated : Bool) (cs : List Char) :
    Option (Primitive × List Char) := do
  match flags.skip cs with
  | [] => none
  | '\x7b' :: rest =>
      let (text, rest) ← untilBrace? flags.ignoreBlanks false rest
      return (.property (queryOf text) negated, rest)
  | '\\' :: _ => none
  | c :: rest => return (.property (.named [c]) negated, flags.skip rest)

/-- A letter or hyphen, of which the names of word assertions are made. -/
def isRuleChar (c : Char) : Bool :=
  c.isAlpha || c = '-'

/-- The word assertion behind `b`.  Braces with a name choose the rule; other
braces are left to count repetitions. -/
def wordRule? (flags : Flags) (cs : List Char) : Option (WordRule × List Char) := do
  match cs with
  | '\x7b' :: rest =>
      match flags.skip rest with
      | [] => none
      | c :: _ =>
          if !isRuleChar c then return (.boundary, cs)
          else
            let (name, rest) ← untilBrace? flags.ignoreBlanks false rest
            match String.ofList name with
            | "start" => return (.start, rest)
            | "end" => return (.finish, rest)
            | "start-half" => return (.startHalf, rest)
            | "end-half" => return (.finishHalf, rest)
            | _ => none
  | _ => return (.boundary, cs)

/-- Any ASCII character but a letter, a digit or an angle bracket stands for
itself behind a backslash. -/
def isPunctuation (c : Char) : Bool :=
  c.toNat < 128 && !c.isAlphanum && c != '<' && c != '>'

/-- The part that an escape stands for, read behind the backslash. -/
def read? (flags : Flags) : List Char -> Option (Primitive × List Char)
  | [] => none
  | 'x' :: rest => hexadecimal? flags 2 rest
  | 'u' :: rest => hexadecimal? flags 4 rest
  | 'U' :: rest => hexadecimal? flags 8 rest
  | 'p' :: rest => property? flags false rest
  | 'P' :: rest => property? flags true rest
  | 'd' :: rest => some (.shorthand .digit false, rest)
  | 'D' :: rest => some (.shorthand .digit true, rest)
  | 's' :: rest => some (.shorthand .space false, rest)
  | 'S' :: rest => some (.shorthand .space true, rest)
  | 'w' :: rest => some (.shorthand .word false, rest)
  | 'W' :: rest => some (.shorthand .word true, rest)
  | 'a' :: rest => some (.literal '\x07' false, rest)
  | 'f' :: rest => some (.literal '\x0c' false, rest)
  | 't' :: rest => some (.literal '\t' false, rest)
  | 'n' :: rest => some (.literal '\n' false, rest)
  | 'r' :: rest => some (.literal '\r' false, rest)
  | 'v' :: rest => some (.literal '\x0b' false, rest)
  | 'A' :: rest => some (.anchor .textStart, rest)
  | 'z' :: rest => some (.anchor .textEnd, rest)
  | 'b' :: rest =>
      (wordRule? flags rest).map fun (rule, rest) => (.anchor (.word rule), rest)
  | 'B' :: rest => some (.anchor (.word .notBoundary), rest)
  | '<' :: rest => some (.anchor (.word .start), rest)
  | '>' :: rest => some (.anchor (.word .finish), rest)
  | c :: rest => if isPunctuation c then some (.literal c false, rest) else none

end Escape

end RecordIndex
