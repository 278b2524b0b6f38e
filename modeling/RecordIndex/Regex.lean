import RecordIndex.Regex.Parser
import RecordIndex.Regex.Search

namespace RecordIndex

/-!
# Regular expressions

A compiled regular expression.  It can be asked whether it matches anywhere in
a text, and for the text of its first group in the leftmost match.

The syntax and the meaning follow the `regex` library, version 1: Unicode
classes, the flags of its builder, and of several matches the leftmost, with
the branches of a choice in order of preference.  It has neither look-around
nor references to groups.  Its limit on the size of an expression is idealised
by `Expr.sizeLimit`.
-/

/-- A regular expression that has been read and compiled. -/
structure Regex where
  source : String
  program : Array Instruction

namespace Regex

/-- The flags that letters turn on.  Letters other than these four have no
effect on matching. -/
def flagsOfLetters (letters : String) : Flags :=
  let has := fun c => letters.toList.contains c
  { Flags.default with
    ignoreCase := has 'i'
    multiLine := has 'm'
    dotAll := has 's'
    ignoreBlanks := has 'x' }

/-- The expression of a source under flag letters, unless it is malformed or
too large by the count of its parts. -/
def compile? (source letters : String) : Option Regex :=
  (Expr.parse? (flagsOfLetters letters) source).map fun expr =>
    ⟨source, (expr.compile ++ [.accept]).toArray⟩

/-- The expression matches somewhere in the text. -/
def isMatch (regex : Regex) (text : String) : Bool :=
  (Search.search regex.program text.toList).isSome

/-- The text of the first group in the leftmost match, if there is a match
and the group takes part in it. -/
def firstGroup? (regex : Regex) (text : String) : Option String := do
  let thread ← Search.search regex.program text.toList
  let first ← thread.groupStart
  let last ← thread.groupEnd
  return String.ofList ((text.toList.take last).drop first)

end Regex

end RecordIndex
