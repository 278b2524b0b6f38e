import RecordIndex.Regex.Expr

namespace RecordIndex

/-!
# Matching programs

An expression is matched by a program: a list of instructions, run from the
first one on.  Jumps are relative, so the program of an expression is put
together from the programs of its parts as they are.

A repetition leads back to its choice between one more copy and the end.  A
body that may match nothing would come back to that choice without having read
anything, and no instruction is run twice at one place of the text; so such a
repetition is an optional one of at least one copy, where the way out has an
instruction of its own.
-/

/-- One instruction.  Unless it says otherwise, the next one follows. -/
inductive Instruction where
  /-- Read one character of the set. -/
  | read (set : CharSet)
  | check (condition : Assertion)
  /-- The first group begins here. -/
  | openGroup
  /-- The first group ends here. -/
  | closeGroup
  /-- Go that far ahead. -/
  | skip (distance : Nat)
  /-- Go that far back. -/
  | back (distance : Nat)
  /-- Go on with the next instruction, or that far ahead.  `stay` says that
  the next one is preferred. -/
  | forkAhead (distance : Nat) (stay : Bool)
  /-- Go on with the next instruction, or that far back.  `stay` says that the
  next one is preferred. -/
  | forkBack (distance : Nat) (stay : Bool)
  | accept

namespace Expr

/-- Any number of copies of a program one after the other. -/
def copies (program : List Instruction) : Nat -> List Instruction
  | 0 => []
  | count + 1 => program ++ copies program count

/-- A program that may be passed over. -/
def optional (greedy : Bool) (program : List Instruction) : List Instruction :=
  .forkAhead (program.length + 1) greedy :: program

/-- A program that is run once or more. -/
def oneOrMore (greedy : Bool) (program : List Instruction) : List Instruction :=
  program ++ [.forkBack program.length (!greedy)]

/-- A program that is run any number of times. -/
def zeroOrMore (greedy nullable : Bool) (program : List Instruction) : List Instruction :=
  if nullable then optional greedy (oneOrMore greedy program)
  else .forkAhead (program.length + 2) greedy :: program ++ [.back (program.length + 1)]

/-- Up to `count` copies, each of which needs the ones before it. -/
def upTo (greedy : Bool) (program : List Instruction) : Nat -> List Instruction
  | 0 => []
  | count + 1 => optional greedy (program ++ upTo greedy program count)

/-- The instructions of an expression. -/
def compile : Expr -> List Instruction
  | .empty => []
  | .chars set => [.read set]
  | .assertion condition => [.check condition]
  | .group number body =>
      if number = 1 then .openGroup :: body.compile ++ [.closeGroup] else body.compile
  | .seq first second => first.compile ++ second.compile
  | .alt first second =>
      let first := first.compile
      let second := second.compile
      .forkAhead (first.length + 2) true :: first ++ .skip (second.length + 1) :: second
  | .repeated body least most greedy =>
      let program := body.compile
      match most with
      | some most => copies program least ++ upTo greedy program (most - least)
      | none =>
          match least with
          | 0 => zeroOrMore greedy body.nullable program
          | least + 1 => copies program least ++ oneOrMore greedy program

end Expr

end RecordIndex
