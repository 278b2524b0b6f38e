import RecordIndex.Error
import RecordIndex.Table
import RecordIndex.Value.Leaf

namespace RecordIndex

/-!
# Terms

A term is a path of names that ends in a leaf.  Records are indexed under
their terms, in two tables: by path first, to look for values at a path, and
by leaf first, to look for a value at any path.  In both tables the identity
of the record comes last, so the rows of one term lie next to each other.
-/

/-- A path and the leaf at its end. -/
structure Term where
  path : List String
  leaf : KeyPart
deriving DecidableEq

namespace Term

def encodePath (path : List String) : Key :=
  Key.encode (path.map .segment)

/-- The key of the term without a record. -/
def encode (term : Term) : Key :=
  encodePath term.path ++ term.leaf.encode

/-- The key by path: path, leaf, record. -/
def propertyKey (term : Term) (id : String) : Key :=
  term.encode ++ (KeyPart.text id).encode

/-- The key by value: leaf, path, record. -/
def valueKey (term : Term) (id : String) : Key :=
  term.leaf.encode ++ encodePath term.path ++ (KeyPart.text id).encode

end Term

/-- A term and how often a record holds it. -/
structure TermCount where
  term : Term
  count : Nat
deriving DecidableEq

/-- The distinct terms of a record by their keys. -/
abbrev TermCounts := Table Key TermCount

namespace TermCounts

/-- Count one more occurrence of a term. -/
def add (counts : TermCounts) (term : Term) : TermCounts :=
  match counts.get? term.encode with
  | some known => counts.insert term.encode { known with count := known.count + 1 }
  | none => counts.insert term.encode ⟨term, 1⟩

/-- The distinct ones of a list of terms, with their numbers. -/
def ofTerms (terms : List Term) : TermCounts :=
  terms.foldl add .empty

end TermCounts

/-- What a key of an index tells. -/
structure IndexEntry where
  path : List String
  leaf : KeyPart
  id : String
deriving DecidableEq

namespace IndexEntry

def term (entry : IndexEntry) : Term :=
  ⟨entry.path, entry.leaf⟩

/-- The names at the beginning of a list of parts, and the parts behind. -/
def splitPath : List KeyPart -> List String × List KeyPart
  | .segment name :: rest =>
      let (path, behind) := splitPath rest
      (name :: path, behind)
  | parts => ([], parts)

/-- The entry of a key by path. -/
def ofPropertyKey? (key : Key) : Except Error IndexEntry :=
  match (Key.decode? key).map splitPath with
  | some (path, [leaf, .text id]) => .ok ⟨path, leaf, id⟩
  | _ => .error .corruptKey

/-- The entry of a key by value. -/
def ofValueKey? (key : Key) : Except Error IndexEntry :=
  match Key.decode? key with
  | some (leaf :: parts) =>
      match splitPath parts with
      | (path, [.text id]) => .ok ⟨path, leaf, id⟩
      | _ => .error .corruptKey
  | _ => .error .corruptKey

end IndexEntry

end RecordIndex
