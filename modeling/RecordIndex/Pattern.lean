import RecordIndex.Regex
import RecordIndex.Value.Tagged

namespace RecordIndex

/-!
# Patterns

A pattern has the shape of the records it matches.  Its leaves are literals,
regular expressions, predicates or operators, and nested patterns reach into
objects and arrays.
-/

/-- What testing a value leads to. -/
inductive Verdict where
  | matched
  | unmatched
  /-- No match, and in a scan in ascending order no later value matches
  either.  Outside of scans this says no more than `unmatched`. -/
  | done
deriving DecidableEq

namespace Verdict

def isMatch (verdict : Verdict) : Bool :=
  verdict == .matched

def ofBool (matched : Bool) : Verdict :=
  if matched then .matched else .unmatched

end Verdict

/-- A choice of properties: the one of a name, or all those whose names an
expression matches. -/
inductive PatternKey where
  | name (text : String)
  | dynamic (regex : Regex)

namespace PatternKey

def accepts (key : PatternKey) (name : String) : Bool :=
  match key with
  | .name expected => expected == name
  | .dynamic regex => regex.isMatch name

def name? : PatternKey -> Option String
  | .name text => some text
  | .dynamic _ => none

end PatternKey

/-- The regular expression of a literal `/source/flags`. -/
def Regex.ofLiteral? (literal : String) : Option Regex :=
  (Value.splitLiteral? literal.toList).bind fun (source, flags) => Regex.compile? source flags

/-- The key of a written name.  A name that spells an expression literal
chooses by that expression. -/
def PatternKey.parse (text : String) : PatternKey :=
  match Regex.ofLiteral? text with
  | some regex => .dynamic regex
  | none => .name text

mutual

/-- A description of the values that a query looks for. -/
inductive Pattern where
  /-- A scalar that must be equal. -/
  | literal (value : Value)
  /-- Strings, numbers and truth values whose text the expression matches. -/
  | regex (regex : Regex)
  | predicate (test : Value -> Verdict)
  /-- A container in which every listed property matches. -/
  | nested (fields : List (PatternKey × Pattern))
  | operator (operator : Operator)

/-- A comparison, or a combination of patterns. -/
inductive Operator where
  | lt (bound : Value)
  | lte (bound : Value)
  | gt (bound : Value)
  | gte (bound : Value)
  | eq (value : Value)
  | neq (value : Value)
  /-- Both ends belong to the interval. -/
  | between (low high : Value)
  | and (patterns : List Pattern)
  | or (patterns : List Pattern)
  | not (pattern : Pattern)

end

namespace Pattern

def object : Pattern :=
  .nested []

/-- Ask for one more property.  Any pattern that is not nested gives way to
one that asks for this property alone. -/
def withField (pattern : Pattern) (key : PatternKey) (field : Pattern) : Pattern :=
  match pattern with
  | .nested fields => .nested (fields ++ [(key, field)])
  | _ => .nested [(key, field)]

/-- Any value that is there. -/
def any : Pattern :=
  .predicate fun value => .ofBool !value.isUndefined

mutual

/-- The pattern of a value.  Containers become nested patterns, and field
names may spell expressions. -/
def ofValue : Value -> Pattern
  | .object fields => .nested (ofFields fields)
  | .array items => .nested (ofItems 0 items)
  | scalar => .literal scalar
termination_by structural value => value

def ofFields : List (String × Value) -> List (PatternKey × Pattern)
  | [] => []
  | (name, value) :: rest => (.parse name, ofValue value) :: ofFields rest
termination_by structural fields => fields

/-- The patterns of items, named by their positions from `index` on. -/
def ofItems (index : Nat) : List Value -> List (PatternKey × Pattern)
  | [] => []
  | item :: rest => (.name (Nat.repr index), ofValue item) :: ofItems (index + 1) rest
termination_by structural items => items

end

end Pattern

end RecordIndex
