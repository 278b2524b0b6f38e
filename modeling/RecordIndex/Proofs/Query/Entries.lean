import RecordIndex.Proofs.Query.Ranges
import RecordIndex.Proofs.Query.Scanning

namespace RecordIndex

/-!
# Tables of entries

An index lists entries, each under its key.  Where it holds no other rows, a scan
reads entries alone, and when no test ends it early it finds all those in its
range that satisfy its term.
-/

/-- The leaf of the entry is one that is read back as it is. -/
def IndexEntry.IsKept (entry : IndexEntry) : Prop :=
  entry.leaf.isSegment = false ∧ entry.leaf.keyed = entry.leaf

/-- The key of the entry. -/
def IndexEntry.key (order : IndexOrder) (entry : IndexEntry) : Key :=
  entry.term.key order entry.id

theorem IndexEntry.IsKept.ofKey?_key {entry : IndexEntry} (isKept : entry.IsKept)
    (order : IndexOrder) : ofKey? order (entry.key order) = .ok entry := by
  have hasLeaf : entry.term.HasLeaf := isKept.1
  have read := IndexEntry.ofKey?_key order hasLeaf entry.id
  rw [show entry.term.leaf.keyed = entry.leaf from isKept.2] at read
  exact read

/-- The table of this order holds these entries and no others. -/
structure Store.Lists (store : Store) (entries : IndexEntry -> Prop) (order : IndexOrder) :
    Prop where
  kept : forall entry, entries entry -> entry.IsKept
  keys : forall key, (∃ count, (key, count) ∈ (store.index order).rows) ↔
    ∃ entry, entries entry ∧ entry.key order = key

namespace Store.Lists

variable {store : Store} {entries : IndexEntry -> Prop} {order : IndexOrder}

/-- What is read at a row of the table is an entry, and the row has its key. -/
theorem exists_entry (lists : store.Lists entries order) {row : Key × Nat}
    (isRow : row ∈ (store.index order).rows) :
    ∃ entry, entries entry ∧ entry.key order = row.1 ∧
      IndexEntry.ofKey? order row.1 = .ok entry := by
  rcases (lists.keys row.1).mp ⟨row.2, isRow⟩ with ⟨entry, isEntry, isKey⟩
  exact ⟨entry, isEntry, isKey, isKey ▸ (lists.kept entry isEntry).ofKey?_key order⟩

theorem readable (lists : forall order, store.Lists entries order) : TermScan.Readable store := by
  intro order row isRow
  rcases (lists order).exists_entry isRow with ⟨entry, _, _, isRead⟩
  exact ⟨entry, isRead⟩

end Store.Lists

namespace TermScan

/-- The scan that reads on where a test is done. -/
def unstopped (scan : TermScan) : TermScan :=
  { scan with stopsWhenDone := false }

theorem sound_unstopped (store : Store) (term : QueryTerm) (tokenized : Bool) :
    (forTerm term tokenized).unstopped.Sound store :=
  sound_forTerm store term tokenized

variable {batch : Nat} {store : Store} {typeName : Option String} {entries : IndexEntry -> Prop}

/-- Read to the last row, the range of a term yields every entry in it that
satisfies the term. -/
theorem mem_upcoming_unstopped_iff {term : QueryTerm} {tokenized : Bool}
    (lists : forall order, store.Lists entries order) (id : String) :
    id ∈ (forTerm term tokenized).unstopped.upcoming store typeName ↔
      hasType typeName id = true ∧ ∃ entry, entries entry ∧ entry.id = id ∧
        term.acceptsPath entry.path = true ∧
          term.leaf.verdict tokenized entry.leaf = .matched ∧
            (term.plan tokenized).range.admits (entry.key (term.plan tokenized).order) = true := by
  have readable := Store.Lists.readable lists
  have here := lists (term.plan tokenized).order
  have isRest (row : Key × Nat) : row ∈ (forTerm term tokenized).unstopped.rows.rest
        (store.index (term.plan tokenized).order) ↔
      row ∈ (store.index (term.plan tokenized).order).rows ∧
        (term.plan tokenized).range.admits row.1 = true :=
    List.mem_filter
  constructor
  · intro found
    rcases exists_of_mem_foundIn found with ⟨row, member, entry, isRead, isFound⟩
    rcases (isRest row).mp member with ⟨isRow, admitted⟩
    rcases here.exists_entry isRow with ⟨entry', isEntry, isKey, isRead'⟩
    cases isRead'.symm.trans isRead
    rcases test_eq_found_iff.mp isFound with ⟨accepts, matched, isTyped, rfl⟩
    exact ⟨isTyped, entry, isEntry, rfl, accepts, matched, isKey ▸ admitted⟩
  · rintro ⟨isTyped, entry, isEntry, rfl, accepts, matched, admitted⟩
    rcases (here.keys _).mpr ⟨entry, isEntry, rfl⟩ with ⟨count, isRow⟩
    refine mem_foundIn_of_row (List.Pairwise.filter _ (Table.ascending _)) ?_
      ((isRest _).mpr ⟨isRow, admitted⟩) ((here.kept entry isEntry).ofKey?_key _)
      (test_eq_found_iff.mpr ⟨accepts, matched, isTyped, rfl⟩) ?_
    · intro row member
      exact readable _ row ((isRest row).mp member).1
    · intro before _ _ earlier _ finished
      exact absurd (done_of_test_eq_finished finished).1 Bool.false_ne_true

end TermScan

end RecordIndex
