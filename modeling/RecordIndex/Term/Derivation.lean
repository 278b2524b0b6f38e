import RecordIndex.Pattern
import RecordIndex.Term
import RecordIndex.Tokenizer

namespace RecordIndex

/-!
# Deriving terms

Records yield the terms they are indexed under, and patterns yield the terms
to look for.  Strings are split into tokens when there is a tokenizer.  When
paths are declared, only what lies at or beneath one of them is indexed, and
both sides prune alike.
-/

/-- What decides on the terms of a record. -/
structure Deriver where
  /-- The declared paths, or nothing when everything is indexed. -/
  declared : Option (List (List String))
  tokenizer : Option Tokenizer
deriving DecidableEq

namespace Deriver

/-! ## Declared paths -/

/-- The segments admit the declared names as far as both go. -/
def agrees {Segment : Type} (admits : Segment -> String -> Bool) :
    List Segment -> List String -> Bool
  | segment :: path, name :: declared => admits segment name && agrees admits path declared
  | _, _ => true

/-- A path leads to a declared one or lies beneath it. -/
def leadsToDeclared {Segment : Type} (deriver : Deriver) (admits : Segment -> String -> Bool)
    (path : List Segment) : Bool :=
  match deriver.declared with
  | none => true
  | some declared => declared.any (agrees admits path)

/-- A path lies at or beneath a declared one. -/
def withinDeclared {Segment : Type} (deriver : Deriver) (admits : Segment -> String -> Bool)
    (path : List Segment) : Bool :=
  match deriver.declared with
  | none => true
  | some declared => declared.any fun names =>
      decide (names.length ≤ path.length) && agrees admits path names

/-- A plain name admits itself. -/
def nameAdmits (name declared : String) : Bool :=
  name == declared

/-- A dynamic segment may stand for any name. -/
def keyAdmits (key : PatternKey) (declared : String) : Bool :=
  match key with
  | .name name => name == declared
  | .dynamic _ => true

/-! ## Records -/

/-- The parts that a string is indexed under. -/
def textParts (deriver : Deriver) (text : String) : List KeyPart :=
  match deriver.tokenizer with
  | some tokenizer => (tokenizer.terms text).map .text
  | none => [.text text]

/-- The parts that a scalar is indexed under. -/
def leafParts (deriver : Deriver) : Value -> List KeyPart
  | .string text => deriver.textParts text
  | scalar => scalar.leafPart?.toList

/-- The terms of a scalar at the end of a path. -/
def leafTerms (deriver : Deriver) (path : List String) (scalar : Value) : List Term :=
  if path.isEmpty || !deriver.withinDeclared nameAdmits path then []
  else (deriver.leafParts scalar).map fun leaf => ⟨path, leaf⟩

mutual

/-- The terms of a value at the end of a path. -/
def termsAt (deriver : Deriver) (path : List String) : Value -> List Term
  | .array items => termsOfItems deriver path 0 items
  | .object fields => termsOfFields deriver path fields
  | scalar => deriver.leafTerms path scalar
termination_by structural value => value

/-- The terms of items from position `index` on. -/
def termsOfItems (deriver : Deriver) (path : List String) (index : Nat) :
    List Value -> List Term
  | [] => []
  | item :: rest =>
      (if deriver.leadsToDeclared nameAdmits (path ++ [Nat.repr index]) then
        termsAt deriver (path ++ [Nat.repr index]) item else []) ++
        termsOfItems deriver path (index + 1) rest
termination_by structural items => items

def termsOfFields (deriver : Deriver) (path : List String) :
    List (String × Value) -> List Term
  | [] => []
  | (name, value) :: rest =>
      (if deriver.leadsToDeclared nameAdmits (path ++ [name]) then
        termsAt deriver (path ++ [name]) value else []) ++
        termsOfFields deriver path rest
termination_by structural fields => fields

end

/-- The terms of a record in the order of its parts, repeated ones included.
A scalar has no path and so no terms. -/
def recordTerms (deriver : Deriver) (value : Value) : List Term :=
  deriver.termsAt [] value

/-- The distinct terms of a record with their numbers. -/
def recordCounts (deriver : Deriver) (value : Value) : TermCounts :=
  .ofTerms (deriver.recordTerms value)

end Deriver

/-! ## Patterns -/

/-- What is asked of the leaf of a query term. -/
inductive TermLeaf where
  | exact (part : KeyPart)
  | regex (regex : Regex)
  | predicate (test : Value -> Verdict)
  | operator (operator : Operator)

/-- A path of keys and what is asked of the leaf at its end. -/
structure QueryTerm where
  path : List PatternKey
  leaf : TermLeaf

namespace QueryTerm

/-- The path as plain names, if no segment is dynamic. -/
def literalPath? (term : QueryTerm) : Option (List String) :=
  term.path.mapM PatternKey.name?

/-- The names at the beginning of a path, up to its first dynamic segment. -/
def namesOf : List PatternKey -> List String
  | .name name :: rest => name :: namesOf rest
  | _ => []

def literalPrefix (term : QueryTerm) : List String :=
  namesOf term.path

/-- Every key accepts the name at its place, and there are as many of both. -/
def pathAccepts : List PatternKey -> List String -> Bool
  | [], [] => true
  | key :: keys, name :: names => key.accepts name && pathAccepts keys names
  | _, _ => false

def acceptsPath (term : QueryTerm) (path : List String) : Bool :=
  pathAccepts term.path path

end QueryTerm

namespace Deriver

/-- What a literal asks of a leaf.  An expression that is data still asks for
a match, unless it is malformed; then the data itself is asked for. -/
def literalLeaves (deriver : Deriver) : Value -> List TermLeaf
  | .regExp source flags =>
      match Regex.compile? source flags with
      | some regex => [.regex regex]
      | none => ((Value.regExp source flags).leafPart?.toList).map .exact
  | .string text => (deriver.textParts text).map .exact
  | scalar => (scalar.leafPart?.toList).map .exact

/-- The terms of one thing asked at the end of a path. -/
def queryLeaves (deriver : Deriver) (path : List PatternKey) (leaves : List TermLeaf) :
    List QueryTerm :=
  if deriver.withinDeclared keyAdmits path then leaves.map fun leaf => ⟨path, leaf⟩ else []

mutual

/-- The terms of a pattern at the end of a path. -/
def queryTermsAt (deriver : Deriver) (path : List PatternKey) : Pattern -> List QueryTerm
  | .nested fields => queryTermsOfFields deriver path fields
  | .regex regex => deriver.queryLeaves path [.regex regex]
  | .predicate test => deriver.queryLeaves path [.predicate test]
  | .operator operator => deriver.queryLeaves path [.operator operator]
  | .literal value => deriver.queryLeaves path (deriver.literalLeaves value)
termination_by structural pattern => pattern

def queryTermsOfFields (deriver : Deriver) (path : List PatternKey) :
    List (PatternKey × Pattern) -> List QueryTerm
  | [] => []
  | (key, pattern) :: rest =>
      (if deriver.leadsToDeclared keyAdmits (path ++ [key]) then
        queryTermsAt deriver (path ++ [key]) pattern else []) ++
        queryTermsOfFields deriver path rest
termination_by structural fields => fields

end

/-- The terms of a pattern in its order.  Only a nested pattern has any. -/
def queryTerms (deriver : Deriver) : Pattern -> List QueryTerm
  | .nested fields => deriver.queryTermsOfFields [] fields
  | _ => []

end Deriver

end RecordIndex
