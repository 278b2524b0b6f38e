import RecordIndex.Pattern

namespace RecordIndex

/-!
# Matching values

`Pattern.verdict` decides whether a value matches a pattern.  It is the last
word on a match: an index scan may propose too many records, and each is
checked here.
-/

namespace Value

/-- The order of two scalars of one kind.  Values of different kinds, and
those of a kind without an order, do not compare. -/
def compare? : Value -> Value -> Option Ordering
  | .number a, .number b => a.compare? b
  | .string a, .string b => some (compare a b)
  | .date a, .date b => some (compare a b)
  | .bool a, .bool b => some (compare a b)
  | _, _ => none

end Value

namespace Operator

/-- Test a lower bound. -/
def lower (value bound : Value) (admits : Ordering -> Bool) : Verdict :=
  match value.compare? bound with
  | some order => .ofBool (admits order)
  | none => .unmatched

/-- Test an upper bound.  The leaves of one path are scanned in the order of
numbers and strings, so nothing behind a bound of these kinds can match. -/
def upper (value bound : Value) (admits : Ordering -> Bool) : Verdict :=
  match value.compare? bound with
  | none => .unmatched
  | some order =>
      if admits order then .matched
      else
        match bound with
        | .number _ => .done
        | .string _ => .done
        | _ => .unmatched

/-- Test both ends of an interval. -/
def interval (value low high : Value) : Verdict :=
  match lower value low Ordering.isGE with
  | .matched => upper value high Ordering.isLE
  | verdict => verdict

/-- The bound that a finite number sets. -/
def finite? (value : Value) : Option Number :=
  value.number?.filter Number.isFinite

/-- The interval of numbers that a comparison with finite numbers accepts. -/
def numberRange? : Operator -> Option (Bound Number × Bound Number)
  | .lt bound => (finite? bound).map fun n => (.unbounded, .excluded n)
  | .lte bound => (finite? bound).map fun n => (.unbounded, .included n)
  | .gt bound => (finite? bound).map fun n => (.excluded n, .unbounded)
  | .gte bound => (finite? bound).map fun n => (.included n, .unbounded)
  | .eq value => (finite? value).map fun n => (.included n, .included n)
  | .between low high => do
      let low ← finite? low
      let high ← finite? high
      return (.included low, .included high)
  | _ => none

end Operator

mutual

/-- Test a value against a pattern. -/
def Pattern.verdict : Pattern -> Value -> Verdict
  | .literal expected, value => .ofBool (expected == value)
  | .regex regex, value => .ofBool (value.matchText?.any regex.isMatch)
  | .predicate test, value => test value
  | .nested fields, value => .ofBool (value.isContainer && Pattern.fieldsMatch fields value)
  | .operator operator, value => operator.verdict value
termination_by structural pattern => pattern

/-- Every listed property matches.  A name that is missing has the value
undefined, and an expression speaks of every child whose name it matches. -/
def Pattern.fieldsMatch : List (PatternKey × Pattern) -> Value -> Bool
  | [], _ => true
  | (key, pattern) :: rest, value =>
      (match key with
        | .name name => (pattern.verdict ((value.get? name).getD .undefined)).isMatch
        | .dynamic regex =>
            value.children.all fun (name, child) =>
              !regex.isMatch name || (pattern.verdict child).isMatch) &&
        Pattern.fieldsMatch rest value
termination_by structural fields => fields

/-- Test a value with an operator. -/
def Operator.verdict : Operator -> Value -> Verdict
  | .lt bound, value => Operator.upper value bound Ordering.isLT
  | .lte bound, value => Operator.upper value bound Ordering.isLE
  | .gt bound, value => Operator.lower value bound Ordering.isGT
  | .gte bound, value => Operator.lower value bound Ordering.isGE
  | .eq expected, value => .ofBool (value == expected)
  | .neq expected, value => .ofBool (value != expected)
  | .between low high, value => Operator.interval value low high
  | .and patterns, value => Pattern.allVerdict patterns value
  | .or patterns, value => Pattern.anyVerdict (!patterns.isEmpty) patterns value
  | .not pattern, value => .ofBool !(pattern.verdict value).isMatch
termination_by structural operator => operator

/-- The first verdict that is no match, if there is one. -/
def Pattern.allVerdict : List Pattern -> Value -> Verdict
  | [], _ => .matched
  | pattern :: rest, value =>
      match pattern.verdict value with
      | .matched => Pattern.allVerdict rest value
      | verdict => verdict
termination_by structural patterns => patterns

/-- A match if there is one.  `allDone` says that every pattern so far was
done, and the scan may end only if all of them are. -/
def Pattern.anyVerdict (allDone : Bool) : List Pattern -> Value -> Verdict
  | [], _ => if allDone then .done else .unmatched
  | pattern :: rest, value =>
      match pattern.verdict value with
      | .matched => .matched
      | .unmatched => Pattern.anyVerdict false rest value
      | .done => Pattern.anyVerdict allDone rest value
termination_by structural patterns => patterns

end

namespace Pattern

def isMatch (pattern : Pattern) (value : Value) : Bool :=
  (pattern.verdict value).isMatch

end Pattern

end RecordIndex
