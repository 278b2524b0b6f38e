import RecordIndex.Proofs.Table.Lookup
import RecordIndex.Proofs.Term.Keys
import RecordIndex.Proofs.Term.Walks

namespace RecordIndex

/-!
# Counting terms

The counts of a list of terms hold a term by its key as often as the list does.
-/

namespace TermCounts

/-- How often a term with this key is held, unless none is. -/
def count? (counts : TermCounts) (key : Key) : Option Nat :=
  (counts.get? key).map TermCount.count

/-- Two counts hold the same terms equally often. -/
def Agree (first second : TermCounts) : Prop :=
  forall key, first.count? key = second.count? key

/-- The entries stand under the keys of their terms. -/
def Filed (counts : TermCounts) : Prop :=
  forall key entry, counts.get? key = some entry -> entry.term.encode = key

/-- The entries stand under the keys of their terms, and their terms have
leaves. -/
def Keyed (counts : TermCounts) : Prop :=
  forall key entry, counts.get? key = some entry ->
    entry.term.encode = key ∧ entry.term.HasLeaf

theorem Keyed.empty : Keyed .empty :=
  fun _ _ found => nomatch found

theorem Keyed.filed {counts : TermCounts} (keyed : counts.Keyed) : counts.Filed :=
  fun key entry found => (keyed key entry found).1

theorem Keyed.hasLeaf {counts : TermCounts} (keyed : counts.Keyed) {entry : TermCount}
    (member : entry ∈ counts.values) : entry.term.HasLeaf := by
  obtain ⟨key, found⟩ := (Table.mem_values_iff counts).mp member
  exact (keyed key entry found).2

/-- The entries of counts are distinct terms. -/
theorem mem_values_iff {counts : TermCounts} (filed : counts.Filed) {entry : TermCount} :
    entry ∈ counts.values ↔ counts.get? entry.term.encode = some entry := by
  rw [Table.mem_values_iff]
  constructor
  · rintro ⟨key, found⟩
    rw [filed key entry found]
    exact found
  · exact fun found => ⟨_, found⟩

/-- The counts are those of a list of keys. -/
def Tally (counts : TermCounts) (keys : List Key) : Prop :=
  forall key, counts.count? key = if keys.count key = 0 then none else some (keys.count key)

theorem tally_empty : Tally .empty [] :=
  fun _ => rfl

theorem count?_insert_self (counts : TermCounts) (key : Key) (entry : TermCount) :
    TermCounts.count? (counts.insert key entry) key = some entry.count := by
  rw [count?, Table.get?_insert_self]
  rfl

theorem count?_insert_of_ne {key other : Key} (different : other ≠ key) (counts : TermCounts)
    (entry : TermCount) :
    TermCounts.count? (counts.insert key entry) other = counts.count? other := by
  rw [count?, Table.get?_insert_of_ne different]
  rfl

theorem count?_add_self (counts : TermCounts) (term : Term) :
    (counts.add term).count? term.encode = some ((counts.count? term.encode).getD 0 + 1) := by
  unfold add
  split
  · rename_i known isKnown
    rw [count?_insert_self, count?, isKnown]
    rfl
  · rename_i isUnknown
    rw [count?_insert_self, count?, isUnknown]
    rfl

theorem count?_add_of_ne {key : Key} {term : Term} (different : key ≠ term.encode)
    (counts : TermCounts) : (counts.add term).count? key = counts.count? key := by
  unfold add
  split
  all_goals exact count?_insert_of_ne different counts _

theorem Tally.add {counts : TermCounts} {keys : List Key} (tally : counts.Tally keys)
    (term : Term) : (counts.add term).Tally (keys ++ [term.encode]) := by
  intro key
  rw [List.count_append]
  by_cases same : key = term.encode
  · subst same
    rw [count?_add_self, tally, List.count_singleton_self, if_neg (Nat.succ_ne_zero _)]
    split
    · rename_i none
      rw [none]
      rfl
    · rfl
  · have different : (term.encode == key) = false := beq_false_of_ne (Ne.symm same)
    rw [count?_add_of_ne same, tally, List.count_singleton, different]
    rfl

theorem Tally.addAll {counts : TermCounts} {keys : List Key} (tally : counts.Tally keys)
    (terms : List Term) :
    Tally (terms.foldl TermCounts.add counts) (keys ++ terms.map Term.encode) := by
  induction terms generalizing counts keys with
  | nil =>
      rw [List.map_nil, List.append_nil]
      exact tally
  | cons term rest ih =>
      rw [List.map_cons, List.append_cons]
      exact ih (tally.add term)

theorem tally_ofTerms (terms : List Term) : (ofTerms terms).Tally (terms.map Term.encode) :=
  tally_empty.addAll terms

/-- Counts agree when the lists hold every key equally often. -/
theorem agree_ofTerms_iff {first second : List Term} :
    (ofTerms first).Agree (ofTerms second) ↔
      (first.map Term.encode).Perm (second.map Term.encode) := by
  rw [List.perm_iff_count]
  apply forall_congr'
  intro key
  rw [tally_ofTerms, tally_ofTerms]
  constructor
  · intro same
    split at same
    · rename_i none
      split at same
      · rename_i none'
        rw [none, none']
      · cases same
    · split at same
      · cases same
      · exact Option.some.inj same
  · intro same
    rw [same]

/-- What is counted is a key of one of the terms. -/
theorem exists_count?_iff (terms : List Term) (key : Key) :
    (∃ count, (ofTerms terms).count? key = some count) ↔ ∃ term ∈ terms, term.encode = key := by
  rw [← List.mem_map, tally_ofTerms, ← List.count_pos_iff]
  split
  · rename_i none
    rw [none]
    exact ⟨nofun, nofun⟩
  · rename_i some
    exact ⟨fun _ => Nat.pos_of_ne_zero some, fun _ => ⟨_, rfl⟩⟩

theorem contains_ofTerms_iff (terms : List Term) (key : Key) :
    (ofTerms terms).contains key = true ↔ ∃ term ∈ terms, term.encode = key := by
  rw [← exists_count?_iff, ← Option.isSome_iff_exists]
  unfold count? Table.contains
  rw [Option.isSome_map]

/-- An entry behind a term that is counted has the term of one before it, or is
that of the term. -/
theorem of_get?_add {counts : TermCounts} {term : Term} {key : Key} {entry : TermCount}
    (found : (counts.add term).get? key = some entry) :
    (∃ known, counts.get? key = some known ∧ known.term = entry.term) ∨
      entry.term = term ∧ term.encode = key := by
  unfold TermCounts.add at found
  by_cases same : key = term.encode
  · subst same
    split at found
    · rename_i known isKnown
      rw [Table.get?_insert_self] at found
      cases found
      exact .inl ⟨known, isKnown, rfl⟩
    · rw [Table.get?_insert_self] at found
      cases found
      exact .inr ⟨rfl, rfl⟩
  · split at found
    all_goals
      rw [Table.get?_insert_of_ne same] at found
      exact .inl ⟨entry, found, rfl⟩

theorem of_get?_foldl_add {terms : List Term} {counts : TermCounts} {key : Key}
    {entry : TermCount} (found : Table.get? (terms.foldl TermCounts.add counts) key = some entry) :
    (∃ known, counts.get? key = some known ∧ known.term = entry.term) ∨
      entry.term ∈ terms ∧ entry.term.encode = key := by
  induction terms generalizing counts with
  | nil => exact .inl ⟨entry, found, rfl⟩
  | cons term rest ih =>
      rcases ih found with ⟨known, isKnown, sameTerm⟩ | ⟨later, isKey⟩
      · rcases of_get?_add isKnown with ⟨first, isFirst, same⟩ | ⟨isTerm, isKey⟩
        · exact .inl ⟨first, isFirst, same.trans sameTerm⟩
        · rw [sameTerm] at isTerm
          exact .inr ⟨isTerm ▸ List.mem_cons_self, isTerm ▸ isKey⟩
      · exact .inr ⟨List.mem_cons_of_mem term later, isKey⟩

/-- The entries are terms of the list, under their keys. -/
theorem of_get?_ofTerms {terms : List Term} {key : Key} {entry : TermCount}
    (found : (ofTerms terms).get? key = some entry) :
    entry.term ∈ terms ∧ entry.term.encode = key :=
  (of_get?_foldl_add found).resolve_left fun ⟨_, isKnown, _⟩ => nomatch isKnown

theorem filed_ofTerms (terms : List Term) : (ofTerms terms).Filed :=
  fun _ _ found => (of_get?_ofTerms found).2

theorem keyed_ofTerms {terms : List Term} (haveLeaves : ∀ term ∈ terms, term.HasLeaf) :
    (ofTerms terms).Keyed := by
  intro key entry found
  obtain ⟨isTerm, isKey⟩ := of_get?_ofTerms found
  exact ⟨isKey, haveLeaves _ isTerm⟩

end TermCounts

/-! ## Terms of records -/

/-- What the parts of a value are when the value itself is it. -/
structure Value.Inherited (kind : Value -> Prop) : Prop where
  item : forall items, kind (.array items) -> ∀ item ∈ items, kind item
  field : forall fields, kind (.object fields) -> ∀ field ∈ fields, kind field.2

/-- Whatever a walk comes to is of the kind of the value. -/
theorem Value.Inherited.leads {kind : Value -> Prop} (inherited : Value.Inherited kind)
    {value reached : Value} {names : List String} (leads : value.Leads names reached)
    (isKind : kind value) : kind reached := by
  induction leads with
  | here value => exact isKind
  | @child value child reached name rest isChild leads ih =>
      refine ih ?_
      cases value with
      | object fields => exact inherited.field fields isKind (name, child) isChild
      | array items =>
          rcases mem_numbered_iff.mp isChild with ⟨place, isItem, _⟩
          exact inherited.item items isKind child (List.mem_of_getElem? isItem)
      | _ => cases isChild

namespace Deriver

/-- A scalar is never indexed as a name. -/
theorem isSegment_of_mem_leafParts {deriver : Deriver} {scalar : Value} {part : KeyPart}
    (member : part ∈ deriver.leafParts scalar) : part.isSegment = false := by
  have textOnly : ∀ tag : Option String, part ∈ (tag.map KeyPart.text).toList ->
      part.isSegment = false := by
    intro tag member
    cases tag with
    | none => cases member
    | some text =>
        cases List.mem_singleton.mp member
        rfl
  cases scalar with
  | string text =>
      change part ∈ deriver.textParts text at member
      unfold textParts at member
      split at member
      · obtain ⟨token, _, rfl⟩ := List.mem_map.mp member
        rfl
      · cases List.mem_singleton.mp member
        rfl
  | number n =>
      change part ∈ (if n.isNaN then _ else _ : Option KeyPart).toList at member
      split at member
      · exact textOnly _ member
      · cases List.mem_singleton.mp member
        rfl
  | undefined => cases member
  | array items => cases member
  | object fields => cases member
  | null =>
      cases List.mem_singleton.mp member
      rfl
  | bool value =>
      cases List.mem_singleton.mp member
      rfl
  | date millis => exact textOnly (some (Value.dateTag millis)) member
  | regExp source flags => exact textOnly (some (Value.regExpTag source flags)) member
  | symbol name => exact textOnly (some (Value.symbolTag name)) member

/-- The leaf of a term is a part of a scalar that is of the kind of the value. -/
theorem scalar_of_mem_termsAt {deriver : Deriver} {kind : Value -> Prop}
    (inherited : Value.Inherited kind) {term : Term} {path : List String} {value : Value}
    (isKind : kind value) (member : term ∈ deriver.termsAt path value) :
    ∃ scalar : Value, kind scalar ∧ term.leaf ∈ deriver.leafParts scalar := by
  rcases mem_termsAt_iff.mp member with ⟨names, scalar, leads, member⟩
  exact ⟨scalar, inherited.leads leads isKind, (mem_leafTerms_iff.mp member).2.2.2⟩

theorem hasLeaf_of_mem_termsAt {deriver : Deriver} {path : List String} {value : Value}
    {term : Term} (member : term ∈ deriver.termsAt path value) : term.HasLeaf := by
  rcases mem_termsAt_iff.mp member with ⟨names, scalar, _, member⟩
  exact isSegment_of_mem_leafParts (mem_leafTerms_iff.mp member).2.2.2

theorem keyed_recordCounts (deriver : Deriver) (value : Value) :
    (deriver.recordCounts value).Keyed :=
  TermCounts.keyed_ofTerms fun _ member => hasLeaf_of_mem_termsAt member

end Deriver

end RecordIndex
