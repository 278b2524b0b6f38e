import RecordIndex.Proofs.Key.Reading
import RecordIndex.Store

namespace RecordIndex

/-!
# Keys of terms

The key of an index entry tells the path, the leaf and the record, in either
arrangement of the index.  A leaf is never a name along a path, so the path
ends where the names end.
-/

namespace Term

/-- The leaf is no name along a path. -/
def HasLeaf (term : Term) : Prop :=
  term.leaf.isSegment = false

/-- The term that a key keeps. -/
def keyed (term : Term) : Term :=
  ⟨term.path, term.leaf.keyed⟩

/-- The parts of the key of a term of a record. -/
def parts (order : IndexOrder) (term : Term) (id : String) : List KeyPart :=
  match order with
  | .byPath => term.path.map .segment ++ [term.leaf, .text id]
  | .byValue => term.leaf :: (term.path.map .segment ++ [.text id])

theorem key_eq (order : IndexOrder) (term : Term) (id : String) :
    term.key order id = Key.encode (term.parts order id) := by
  cases order with
  | byPath =>
      unfold parts
      rw [Key.encode_append]
      change (encodePath term.path ++ term.leaf.encode) ++ (KeyPart.text id).encode =
        encodePath term.path ++ (term.leaf.encode ++ ((KeyPart.text id).encode ++ []))
      rw [List.append_nil, List.append_assoc]
  | byValue =>
      unfold parts
      rw [Key.encode_cons, Key.encode_append]
      change (term.leaf.encode ++ encodePath term.path) ++ (KeyPart.text id).encode =
        term.leaf.encode ++ (encodePath term.path ++ ((KeyPart.text id).encode ++ []))
      rw [List.append_nil, List.append_assoc]

/-- Names are kept as they are. -/
theorem map_keyed_segments (names : List String) :
    (names.map KeyPart.segment).map KeyPart.keyed = names.map .segment :=
  List.map_map

/-- What a key keeps of the parts are the parts of the term that it keeps. -/
theorem map_keyed_parts (order : IndexOrder) (term : Term) (id : String) :
    (term.parts order id).map KeyPart.keyed = term.keyed.parts order id := by
  cases order with
  | byPath =>
      rw [parts, List.map_append, map_keyed_segments]
      rfl
  | byValue =>
      rw [parts, List.map_cons, List.map_append, map_keyed_segments]
      rfl

/-- The parts tell the term and the record: the record comes last, and in front of it the leaf
stands at one end of the path. -/
theorem parts_inj {first second : Term} {order : IndexOrder} {id id' : String} :
    first.parts order id = second.parts order id' ↔ first = second ∧ id = id' := by
  constructor
  · intro same
    obtain ⟨path, leaf⟩ := first
    obtain ⟨path', leaf'⟩ := second
    cases order with
    | byPath =>
        obtain ⟨paths, ends⟩ := List.append_inj' same rfl
        cases (List.map_inj_right fun _ _ => KeyPart.segment.inj).mp paths
        cases ends
        exact ⟨rfl, rfl⟩
    | byValue =>
        obtain ⟨leaves, rests⟩ := List.cons_eq_cons.mp same
        obtain ⟨paths, ends⟩ := List.append_inj' rests rfl
        cases (List.map_inj_right fun _ _ => KeyPart.segment.inj).mp paths
        cases leaves
        cases ends
        exact ⟨rfl, rfl⟩
  · rintro ⟨rfl, rfl⟩
    rfl

theorem encode_keyed (term : Term) : term.keyed.encode = term.encode := by
  unfold encode keyed
  rw [KeyPart.encode_keyed]

theorem key_keyed (order : IndexOrder) (term : Term) (id : String) :
    term.keyed.key order id = term.key order id := by
  rw [key_eq, key_eq, ← map_keyed_parts, Key.encode_map_keyed]

variable {first second : Term} {order : IndexOrder}

/-- Two rows of an index have one key only if they are of one term, as a key keeps it, and of one
record. -/
theorem key_eq_iff {id id' : String} : first.key order id = second.key order id' ↔
    first.keyed = second.keyed ∧ id = id' := by
  rw [key_eq, key_eq, Key.encode_inj, map_keyed_parts, map_keyed_parts, parts_inj]

/-- Terms with one key are kept as one term. -/
theorem encode_inj : first.encode = second.encode ↔ first.keyed = second.keyed := by
  constructor
  · intro same
    have keys : first.key .byPath "" = second.key .byPath "" :=
      congrArg (· ++ (KeyPart.text "").encode) same
    exact (key_eq_iff.mp keys).1
  · intro same
    rw [← encode_keyed first, same, encode_keyed]

theorem key_inj {id id' : String} : first.key order id = second.key order id' ↔
    first.encode = second.encode ∧ id = id' := by
  rw [key_eq_iff, encode_inj]

end Term

namespace IndexEntry

/-- The names at the front end where the first other part stands. -/
theorem splitPath_append (path : List String) {part : KeyPart} (noName : part.isSegment = false)
    (rest : List KeyPart) :
    splitPath (path.map .segment ++ part :: rest) = (path, part :: rest) := by
  induction path with
  | nil =>
      cases part with
      | segment name => cases noName
      | _ => rfl
  | cons name path ih =>
      rw [List.map_cons, List.cons_append, splitPath, ih]

/-- A key of an index tells the term and the record. -/
theorem ofKey?_key (order : IndexOrder) {term : Term} (hasLeaf : term.HasLeaf) (id : String) :
    ofKey? order (term.key order id) = .ok ⟨term.path, term.leaf.keyed, id⟩ := by
  have leafIsNoName : term.leaf.keyed.isSegment = false :=
    (KeyPart.isSegment_keyed term.leaf).trans hasLeaf
  have read : Key.decode? (term.key order id) = some (term.keyed.parts order id) := by
    rw [Term.key_eq, Key.decode?_encode, Term.map_keyed_parts]
  cases order with
  | byPath =>
      change ofPropertyKey? _ = _
      unfold ofPropertyKey?
      rw [read, Option.map_some]
      simp only [Term.parts, Term.keyed, splitPath_append term.path leafIsNoName]
  | byValue =>
      have path := splitPath_append term.path (show (KeyPart.text id).isSegment = false from rfl) []
      change ofValueKey? _ = _
      unfold ofValueKey?
      rw [read]
      simp only [Term.parts, Term.keyed, path]

end IndexEntry

end RecordIndex
