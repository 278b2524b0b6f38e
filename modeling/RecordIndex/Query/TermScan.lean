import RecordIndex.Pattern.Verdict
import RecordIndex.Store
import RecordIndex.Term.Derivation

namespace RecordIndex

/-!
# Scanning for one term

Each term of a query is answered by a scan of one index.  The term decides
which index and which range of its keys hold every entry that can satisfy it;
what is read from there is still tested.

Where strings are indexed by tokens, a stored token is only a piece of a
string.  No test of a whole string can be made on it, so every token passes
and the record itself has the last word.
-/

namespace TermLeaf

/-- Test what a stored leaf stands for.  A token always passes. -/
def testStored (tokenized : Bool) (test : Value -> Verdict) (stored : KeyPart) : Verdict :=
  let value := Value.ofLeafPart stored
  if tokenized && value.string?.isSome then .matched else test value

/-- Two parts are the same leaf.  Numbers are compared as numbers. -/
def samePart : KeyPart -> KeyPart -> Bool
  | .number a, .number b => a.equals b
  | a, b => a == b

/-- Test a stored leaf against what a term asks for. -/
def verdict (leaf : TermLeaf) (tokenized : Bool) (stored : KeyPart) : Verdict :=
  match leaf with
  | .exact expected => .ofBool (samePart expected stored)
  | .regex expression =>
      testStored tokenized (fun value => .ofBool (value.matchText?.any expression.isMatch)) stored
  | .predicate test => testStored tokenized test stored
  | .operator comparison => testStored tokenized comparison.verdict stored

end TermLeaf

/-- A range of keys. -/
structure KeyRange where
  start : Bound Key
  stop : Bound Key
deriving DecidableEq

namespace KeyRange

/-- Where the keys end that begin with `beginning`. -/
def behind (beginning : Key) : Bound Key :=
  match beginning.prefixEnd? with
  | some key => .excluded key
  | none => .unbounded

/-- The keys that begin with `beginning`. -/
def beginningWith (beginning : Key) : KeyRange where
  start := .included beginning
  stop := behind beginning

/-- The keys by value whose leaf is a number between two bounds. -/
def ofNumbers (bounds : Bound Number × Bound Number) : KeyRange where
  start :=
    match bounds.1 with
    | .included low => .included (KeyPart.number low).encode
    | .excluded low =>
        match (KeyPart.number low).encode.prefixEnd? with
        | some key => .included key
        | none => .unbounded
    | .unbounded => .included (KeyPart.number .zero).typeStart
  stop :=
    match bounds.2 with
    | .included high => behind (KeyPart.number high).encode
    | .excluded high => .excluded (KeyPart.number high).encode
    | .unbounded => .excluded (KeyPart.number .zero).typeEnd

end KeyRange

/-- Where to look for a term. -/
structure ScanPlan where
  order : IndexOrder
  range : KeyRange
  /-- The leaves of one path come in ascending order, so the scan may end when
  no later leaf can match. -/
  stopsWhenDone : Bool

namespace QueryTerm

/-- The path has no dynamic segment. -/
def isLiteral (term : QueryTerm) : Bool :=
  term.literalPath?.isSome

/-- Look through everything beneath the names that the path begins with. -/
def pathPlan (term : QueryTerm) (tokenized : Bool) : ScanPlan where
  order := .byPath
  range := .beginningWith (Term.encodePath term.literalPrefix)
  stopsWhenDone := term.isLiteral && !tokenized

/-- The index and the keys that answer a term.  A known leaf is looked up
under its path, or under itself if the path is not known; a comparison of
numbers is a range of the leaves; and anything else is looked for beneath the
path. -/
def plan (term : QueryTerm) (tokenized : Bool) : ScanPlan :=
  match term.leaf with
  | .exact leaf =>
      if term.isLiteral then
        ⟨.byPath, .beginningWith (Term.encodePath term.literalPrefix ++ leaf.encode), false⟩
      else
        ⟨.byValue, .beginningWith (leaf.encode ++ Term.encodePath term.literalPrefix), false⟩
  | .operator operator =>
      match operator.numberRange? with
      | some bounds =>
          if term.isLiteral then ⟨.byValue, .ofNumbers bounds, false⟩ else term.pathPlan tokenized
      | none => term.pathPlan tokenized
  | _ => term.pathPlan tokenized

end QueryTerm

/-- A scan for one term in progress. -/
structure TermScan where
  term : QueryTerm
  order : IndexOrder
  rows : Scan Key Nat
  stopsWhenDone : Bool
  tokenized : Bool

/-- What reading one row of a scan comes to. -/
inductive RowResult where
  | found (id : String)
  /-- The row does not satisfy the term. -/
  | passed
  | finished
  | failed (cause : Error)

namespace TermScan

/-- The scan that answers a term, before its first row. -/
def forTerm (term : QueryTerm) (tokenized : Bool) : TermScan :=
  let plan := term.plan tokenized
  { term
    order := plan.order
    rows := .ofBounds plan.range.start plan.range.stop
    stopsWhenDone := plan.stopsWhenDone
    tokenized }

/-- The identity is one of the type that is asked for, if one is. -/
def hasType (typeName : Option String) (id : String) : Bool :=
  typeName.all fun typeName => (Store.typePrefix typeName).isPrefixOf id

/-- What one entry comes to. -/
def test (scan : TermScan) (typeName : Option String) (entry : IndexEntry) : RowResult :=
  if !scan.term.acceptsPath entry.path then .passed
  else
    match scan.term.leaf.verdict scan.tokenized entry.leaf with
    | .matched => if hasType typeName entry.id then .found entry.id else .passed
    | .unmatched => .passed
    | .done => if scan.stopsWhenDone then .finished else .passed

/-- Read one row. -/
def step (batch : Nat) (store : Store) (typeName : Option String) (scan : TermScan) :
    RowResult × TermScan :=
  match scan.rows.next batch (store.index scan.order) with
  | (none, rows) => (.finished, { scan with rows })
  | (some row, rows) =>
      match IndexEntry.ofKey? scan.order row.1 with
      | .ok entry => (scan.test typeName entry, { scan with rows })
      | .error cause => (.failed cause, { scan with rows })

/-- An upper bound on the rows still to come from an unchanging store. -/
def remaining (store : Store) (scan : TermScan) : Nat :=
  scan.rows.remaining (store.index scan.order)

/-- Unless the scan finishes or fails, it has read a row. -/
theorem remaining_step_lt {batch : Nat} {store : Store} {typeName : Option String}
    {scan after : TermScan} {result : RowResult}
    (reads : scan.step batch store typeName = (result, after))
    (notFinished : result ≠ .finished) :
    after.remaining store < scan.remaining store := by
  unfold step at reads
  split at reads
  · cases reads
    exact absurd rfl notFinished
  · rename_i row rows isNext
    have shorter := Scan.remaining_next_lt isNext
    split at reads
    all_goals
      cases reads
      exact shorter

end TermScan

end RecordIndex
