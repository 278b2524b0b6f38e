import RecordIndex.Regex.Bracket
import RecordIndex.Text.Integer
import RecordIndex.Text.Words

namespace RecordIndex

/-!
# Reading regular expressions

An expression is read part by part.  The groups that have been opened wait on
a stack, each with the branches and the parts it has so far.  Flags that are
set inside a group stay in force up to its end, also in the branches behind.

There is no look-around and no reference to what a group has matched, so every
expression that can be read can be matched in one pass.  What can be read, and
how deep it may be nested, follows the `regex` library.
-/

namespace Expr

/-- An expression with the depth of its nesting. -/
structure Parsed where
  expr : Expr
  depth : Nat

namespace Parsed

/-- The depth of the deepest of several expressions. -/
def depthOf (parts : List Parsed) : Nat :=
  (parts.map Parsed.depth).foldl max 0

/-- Several expressions one after the other. -/
def sequence (parts : List Parsed) : Parsed :=
  ⟨.sequence (parts.map Parsed.expr), if 1 < parts.length then depthOf parts + 1 else depthOf parts⟩

/-- A choice between several expressions. -/
def alternatives (parts : List Parsed) : Parsed :=
  ⟨.alternatives (parts.map Parsed.expr),
    if 1 < parts.length then depthOf parts + 1 else depthOf parts⟩

end Parsed

/-- A part of a branch. -/
inductive Part where
  | expr (parsed : Parsed)
  /-- A change of flags, which matches nothing and cannot be repeated. -/
  | flags

def Part.parsed : Part -> Parsed
  | .expr parsed => parsed
  | .flags => ⟨.empty, 0⟩

/-- A group that has been opened. -/
structure Frame where
  /-- The number of a group that remembers its text. -/
  number : Option Nat
  /-- The flags that are in force again behind the group. -/
  flags : Flags
  /-- The branches and the parts before the group, last one first. -/
  branches : List Parsed
  parts : List Part

/-- An expression in the course of being read. -/
structure Reader where
  stack : List Frame
  flags : Flags
  /-- Branches and parts of the innermost group, last one first. -/
  branches : List Parsed
  parts : List Part
  /-- The numbered groups so far and the names among them. -/
  groups : Nat
  names : List String
  rest : List Char

namespace Reader

def start (flags : Flags) (source : List Char) : Reader :=
  ⟨[], flags, [], [], 0, [], source⟩

/-- The expression of the innermost group. -/
def finish (reader : Reader) : Parsed :=
  .alternatives ((.sequence (reader.parts.reverse.map Part.parsed) :: reader.branches).reverse)

def push (reader : Reader) (part : Part) (rest : List Char) : Reader :=
  { reader with parts := part :: reader.parts, rest := rest }

/-! ## Repetition -/

/-- The digits of a count, and what follows them. -/
def countDigits (ignoreBlanks inComment : Bool) : List Char -> List Char × List Char
  | [] => ([], [])
  | c :: rest =>
      if inComment then countDigits ignoreBlanks (c != '\n') rest
      else if c.isDigit then
        let (digits, behind) := countDigits ignoreBlanks false rest
        (c :: digits, behind)
      else if ignoreBlanks && isBlank c then countDigits ignoreBlanks false rest
      else if ignoreBlanks && c = '#' then countDigits ignoreBlanks true rest
      else ([], c :: rest)

/-- A count below `2 ^ 32` with blanks around it.  `none` inside stands for a
count that is left out. -/
def count? (flags : Flags) (cs : List Char) : Option (Option Nat × List Char) :=
  let (digits, rest) := countDigits flags.ignoreBlanks false (cs.dropWhile isBlank)
  let rest := flags.skip (rest.dropWhile isBlank)
  if digits.isEmpty then some (none, rest)
  else
    ((IntegerText.value? 0 digits).filter fun n => decide (n < 0x100000000)).map fun n => (some n, rest)

/-- The counts between braces: exactly, at least, or between two numbers.  The
least number is never left out. -/
def counts? (flags : Flags) (cs : List Char) : Option (Nat × Option Nat × List Char) := do
  let (least, rest) ← count? flags (flags.skip cs)
  match rest with
  | '\x7d' :: rest =>
      let count ← least
      return (count, some count, rest)
  | ',' :: rest =>
      match flags.skip rest with
      | '\x7d' :: rest => return (← least, none, rest)
      | rest =>
          let (most, rest) ← count? flags rest
          match rest with
          | '\x7d' :: rest =>
              let least ← least
              let most ← most
              if least ≤ most then return (least, some most, rest) else none
          | _ => none
  | _ => none

/-- Repeat the last part.  A question mark behind the count asks for as few
copies as possible. -/
def repeatLast? (reader : Reader) (least : Nat) (most : Option Nat) (rest : List Char) :
    Option Reader :=
  match reader.parts with
  | .expr parsed :: parts =>
      let (lazy, rest) :=
        match rest with
        | '?' :: rest => (true, rest)
        | _ => (false, rest)
      let greedy := lazy == reader.flags.swapGreed
      some { reader with
        parts := .expr ⟨.repeated parsed.expr least most greedy, parsed.depth + 1⟩ :: parts
        rest := rest }
  | _ => none

/-! ## Groups -/

/-- One flag letter, set or cleared. -/
def setFlag? (flags : Flags) (letter : Char) (value : Bool) : Option Flags :=
  match letter with
  | 'i' => some { flags with ignoreCase := value }
  | 'm' => some { flags with multiLine := value }
  | 's' => some { flags with dotAll := value }
  | 'U' => some { flags with swapGreed := value }
  | 'u' => some { flags with unicode := value }
  | 'R' => some { flags with anyLineEnding := value }
  | 'x' => some { flags with ignoreBlanks := value }
  | _ => none

/-- Flag letters up to a colon or a closing parenthesis.  A hyphen clears the
flags behind it.  No letter is given twice, and there is one hyphen at most,
which is not last. -/
def flagLetters? (flags : Flags) (seen : List Char) :
    List Char -> Option (Flags × List Char × List Char)
  | [] => none
  | c :: rest =>
      if c = ':' || c = ')' then
        if seen.head? = some '-' then none else some (flags, seen, c :: rest)
      else if seen.contains c then none
      else if c = '-' then flagLetters? flags (c :: seen) rest
      else
        (setFlag? flags c (!seen.contains '-')).bind fun flags =>
          flagLetters? flags (c :: seen) rest

/-- Open a group. -/
def openGroup (reader : Reader) (number : Option Nat) (flags : Flags) (rest : List Char) :
    Reader :=
  { reader with
    stack := ⟨number, reader.flags, reader.branches, reader.parts⟩ :: reader.stack
    flags := flags
    branches := []
    parts := []
    rest := rest }

/-- Open a group that remembers its text. -/
def openNumbered (reader : Reader) (rest : List Char) : Reader :=
  let number := reader.groups + 1
  { reader.openGroup (some number) reader.flags rest with groups := number }

/-- A name begins with a letter or a low line. -/
def isName : List Char -> Bool
  | [] => false
  | c :: rest =>
      (c = '_' || CharProperty.alphabetic.contains c) &&
        rest.all fun c => c = '_' || c = '.' || c = '[' || c = ']' || Words.isAlphanumeric c

/-- Open a group with a name, which no other group may have. -/
def openNamed? (reader : Reader) (rest : List Char) : Option Reader :=
  let name := rest.takeWhile (· != '>')
  match rest.dropWhile (· != '>') with
  | '>' :: rest =>
      let text := String.ofList name
      if isName name && !reader.names.contains text then
        some { reader.openNumbered rest with names := text :: reader.names }
      else none
  | _ => none

/-- What stands behind an opening parenthesis. -/
def group? (reader : Reader) (rest : List Char) : Option Reader :=
  match reader.flags.skip rest with
  | '?' :: '=' :: _ => none
  | '?' :: '!' :: _ => none
  | '?' :: '<' :: '=' :: _ => none
  | '?' :: '<' :: '!' :: _ => none
  | '?' :: 'P' :: '<' :: rest => reader.openNamed? rest
  | '?' :: '<' :: rest => reader.openNamed? rest
  | '?' :: rest =>
      match flagLetters? reader.flags [] rest with
      | some (flags, _, ':' :: rest) => some (reader.openGroup none flags rest)
      | some (_, [], _) => none
      | some (flags, _, _ :: rest) => some { reader.push .flags rest with flags := flags }
      | _ => none
  | rest => some (reader.openNumbered rest)

/-- Close the innermost group. -/
def closeGroup? (reader : Reader) (rest : List Char) : Option Reader :=
  match reader.stack with
  | [] => none
  | frame :: stack =>
      let body := reader.finish
      let group :=
        match frame.number with
        | some number => Expr.group number body.expr
        | none => body.expr
      some { reader with
        stack := stack
        flags := frame.flags
        branches := frame.branches
        parts := .expr ⟨group, body.depth + 1⟩ :: frame.parts
        rest := rest }

/-! ## The whole expression -/

/-- Begin the next branch. -/
def nextBranch (reader : Reader) (rest : List Char) : Reader :=
  { reader with
    branches := .sequence (reader.parts.reverse.map Part.parsed) :: reader.branches
    parts := []
    rest := rest }

/-- A part that is neither a group nor a class. -/
def primitive? (reader : Reader) (cs : List Char) : Option Reader := do
  let (part, rest) ←
    match cs with
    | [] => none
    | '\\' :: rest => Escape.read? reader.flags rest
    | '.' :: rest => some (.dot, rest)
    | '^' :: rest => some (.anchor .lineStart, rest)
    | '$' :: rest => some (.anchor .lineEnd, rest)
    | c :: rest => some (.literal c false, rest)
  return reader.push (.expr ⟨← part.expr? reader.flags, 0⟩) rest

/-- Read one part from what is left, which begins with no blanks to ignore. -/
def step? (reader : Reader) (cs : List Char) : Option Reader :=
  match cs with
  | '(' :: rest => reader.group? rest
  | ')' :: rest => reader.closeGroup? rest
  | '|' :: rest => some (reader.nextBranch rest)
  | '[' :: rest =>
      (Bracket.read? reader.flags rest).map fun (set, depth, rest) =>
        reader.push (.expr ⟨.chars set, depth⟩) rest
  | '?' :: rest => reader.repeatLast? 0 (some 1) rest
  | '*' :: rest => reader.repeatLast? 0 none rest
  | '+' :: rest => reader.repeatLast? 1 none rest
  | '\x7b' :: rest =>
      (counts? reader.flags rest).bind fun (least, most, rest) =>
        reader.repeatLast? least most (reader.flags.skip rest)
  | cs => reader.primitive? cs

/-- Read all that is left.  Every step reads a character. -/
def run? : Nat -> Reader -> Option Parsed
  | 0, _ => none
  | steps + 1, reader =>
      match reader.flags.skip reader.rest with
      | [] => if reader.stack.isEmpty then some reader.finish else none
      | cs => (reader.step? cs).bind (run? steps)

end Reader

/-- The deepest nesting that is accepted. -/
def depthLimit : Nat :=
  250

/-- The expression that a source spells under the given flags. -/
def parse? (flags : Flags) (source : String) : Option Expr :=
  let cs := source.toList
  (Reader.run? (cs.length + 1) (.start flags cs)).bind fun parsed =>
    if parsed.depth ≤ depthLimit && parsed.expr.size ≤ sizeLimit then some parsed.expr else none

end Expr

end RecordIndex
