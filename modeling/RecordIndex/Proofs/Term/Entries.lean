import RecordIndex.Proofs.Key.Parts
import RecordIndex.Proofs.Term.Keys

namespace RecordIndex

/-!
# Keys identify their entries

The key of a row tells the path, the leaf and the record of the row, in either
arrangement and whatever characters the names have.  Two rows have one key only
if they are of the same path, leaf and record.  The one thing that a key does
not tell is the sign of a zero, so leaves are the same when they are equal as
numbers.

A leaf is never taken for a name along a path: a path is the beginning of a key
only if it is the beginning of the path of the row.
-/

namespace Term

/-- Names are the beginning of names and a leaf only within the names. -/
theorem segments_prefix_iff (path names : List String) {part : KeyPart}
    (noName : part.isSegment = false) (rest : List KeyPart) :
    path.map .segment <+: names.map .segment ++ part :: rest ↔ path <+: names := by
  induction path generalizing names with
  | nil => exact iff_of_true List.nil_prefix List.nil_prefix
  | cons name path ih =>
      cases names with
      | nil =>
          refine iff_of_false (fun beginning => ?_) fun beginning => ?_
          · obtain ⟨isPart, _⟩ := List.cons_prefix_cons.mp beginning
            rw [← isPart] at noName
            cases noName
          · cases List.prefix_nil.mp beginning
      | cons name' names =>
          rw [List.map_cons, List.map_cons, List.cons_append, List.cons_prefix_cons,
            List.cons_prefix_cons, ih, KeyPart.segment.injEq]

/-- A path is the beginning of a key by path only if it is the beginning of the
path of the row. -/
theorem encodePath_prefix_iff (path : List String) {term : Term} (hasLeaf : term.HasLeaf)
    (id : String) : encodePath path <+: term.key .byPath id ↔ path <+: term.path := by
  have leafIsNoName : term.leaf.keyed.isSegment = false :=
    (KeyPart.isSegment_keyed term.leaf).trans hasLeaf
  rw [encodePath, key_eq, Key.encode_prefix_iff, map_keyed_segments, map_keyed_parts]
  exact segments_prefix_iff path term.path leafIsNoName _

end Term

namespace IndexEntry

/-- A key tells the path, the leaf up to the sign of a zero, and the record; and
it is the key of nothing else, be it a term or names alone. -/
theorem key_identifies (order : IndexOrder) {term : Term} (hasLeaf : term.HasLeaf) (id : String) :
    (∃ leaf, ofKey? order (term.key order id) = .ok ⟨term.path, leaf, id⟩ ∧
      leaf.Alike term.leaf) ∧
    (forall (other : Term) (otherId : String), term.key order id = other.key order otherId ↔
      term.path = other.path ∧ term.leaf.Alike other.leaf ∧ id = otherId) ∧
    forall path, Term.encodePath path <+: term.key .byPath id ↔ path <+: term.path := by
  refine ⟨⟨term.leaf.keyed, ofKey?_key order hasLeaf id, term.leaf.keyed_alike⟩,
    fun other otherId => ?_, fun path => Term.encodePath_prefix_iff path hasLeaf id⟩
  rw [Term.key_eq_iff, Term.keyed, Term.keyed, Term.mk.injEq, KeyPart.keyed_eq_iff, and_assoc]

/-- A negative zero behind an empty name and one with a character of number
zero, in a record without a name. -/
theorem key_identifies_negativeZero :
    let term : Term := ⟨["", "a\x00"], .number ⟨0x8000000000000000⟩⟩
    term.HasLeaf ∧
      (∃ leaf, ofKey? .byValue (term.key .byValue "") = .ok ⟨["", "a\x00"], leaf, ""⟩ ∧
        leaf.Alike term.leaf) ∧
      term.key .byValue "" = Term.key .byValue ⟨["", "a\x00"], .number .zero⟩ "" ∧
      term.key .byValue "" ≠ Term.key .byValue ⟨["", "a"], .number .zero⟩ "" := by
  intro term
  have hasLeaf : term.HasLeaf := rfl
  obtain ⟨read, unique, _⟩ := key_identifies .byValue hasLeaf ""
  have zeros : term.leaf.Alike (.number .zero) := .inr ⟨_, _, rfl, rfl, by decide⟩
  refine ⟨hasLeaf, read, (unique _ _).mpr ⟨rfl, zeros, rfl⟩, fun same => ?_⟩
  exact absurd ((unique _ _).mp same).1 (by decide)

end IndexEntry

end RecordIndex
