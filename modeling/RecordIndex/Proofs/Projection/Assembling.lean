import RecordIndex.Projection
import RecordIndex.Proofs.Table.Lookup

namespace RecordIndex

/-!
# Assembling what was kept

What a projection keeps of a container is put together again from a list of
entries.  Of the entries for one place the last one counts.  An object holds it
under its name; an array holds it at its position, goes as far as something was
kept, and is undefined in between.
-/

namespace Projection

/-! ## The last entry for a place -/

section

variable {Place : Type} [DecidableEq Place] (placeOf : String -> Option Place) (place : Place)

/-- The last of the entries whose names stand for a place. -/
def lastAt (entries : List (String × Value)) : Option Value :=
  entries.reverse.findSome? fun entry => if placeOf entry.1 = some place then some entry.2 else none

theorem lastAt_append (first second : List (String × Value)) :
    lastAt placeOf place (first ++ second) =
      (lastAt placeOf place second).or (lastAt placeOf place first) := by
  simp [lastAt, List.findSome?_append]

/-- Of more entries the one that comes last counts first. -/
theorem lastAt_concat (entries : List (String × Value)) (name : String) (item : Value) :
    lastAt placeOf place (entries ++ [(name, item)]) =
      if placeOf name = some place then some item else lastAt placeOf place entries := by
  by_cases isPlace : placeOf name = some place <;> simp [lastAt, isPlace]

/-- If some entry has the place, and each that has it holds the same, then that is
what counts. -/
theorem lastAt_eq_some {entries : List (String × Value)} {item : Value}
    (some_entry : ∃ name, (name, item) ∈ entries ∧ placeOf name = some place)
    (same : ∀ entry ∈ entries, placeOf entry.1 = some place -> entry.2 = item) :
    lastAt placeOf place entries = some item := by
  cases isLast : lastAt placeOf place entries with
  | none =>
      rcases some_entry with ⟨name, isEntry, isPlace⟩
      have missed := List.findSome?_eq_none_iff.mp isLast _ (List.mem_reverse.mpr isEntry)
      rw [if_pos isPlace] at missed
      cases missed
  | some last =>
      rcases List.exists_of_findSome?_eq_some isLast with ⟨entry, isEntry, found⟩
      split at found
      · rename_i isPlace
        cases found
        rw [same entry (List.mem_reverse.mp isEntry) isPlace]
      · cases found

theorem lastAt_eq_none {entries : List (String × Value)}
    (elsewhere : ∀ entry ∈ entries, placeOf entry.1 ≠ some place) :
    lastAt placeOf place entries = none := by
  apply List.findSome?_eq_none_iff.mpr
  intro entry isEntry
  exact if_neg (elsewhere entry (List.mem_reverse.mp isEntry))

end

/-! ## Objects -/

theorem assembleFields_concat (entries : List (String × Value)) (name : String) (field : Value) :
    assembleFields (entries ++ [(name, field)]) = Rows.insert name field (assembleFields entries) := by
  simp [assembleFields]

/-- An object holds the last of what was kept under each name. -/
theorem get?_assembleFields (entries : List (String × Value)) (name : String) :
    Rows.get? name (assembleFields entries) = lastAt some name entries := by
  rw [← entries.reverse_reverse]
  induction entries.reverse with
  | nil => rfl
  | cons entry rest ih =>
      rcases entry with ⟨own, field⟩
      rw [List.reverse_cons, assembleFields_concat, lastAt_concat]
      by_cases same : own = name
      · subst same
        simp [Rows.get?_insert_self]
      · have different : name ≠ own := fun same' => same same'.symm
        simp [Rows.get?_insert_of_ne different, same, ih]

theorem ascending_assembleFields (entries : List (String × Value)) :
    Rows.Ascending (assembleFields entries) := by
  rw [← entries.reverse_reverse]
  induction entries.reverse with
  | nil => exact .nil
  | cons entry rest ih =>
      rw [List.reverse_cons, assembleFields_concat]
      exact ih.insert entry.1 entry.2

/-! ## Arrays -/

/-- The items are what is kept at each place: they go as far as something is kept,
and are undefined where nothing is. -/
structure IsFilled (items : List Value) (kept : Nat -> Option Value) : Prop where
  reaches : forall place, place < items.length ↔ ∃ later, place ≤ later ∧ (kept later).isSome
  holds : forall place item, items[place]? = some item -> item = (kept place).getD .undefined

theorem isFilled_nil : IsFilled [] fun _ => none where
  reaches := by simp
  holds := by simp

theorem IsFilled.congr {items : List Value} {kept kept' : Nat -> Option Value}
    (filled : IsFilled items kept) (same : forall place, kept' place = kept place) :
    IsFilled items kept' := by
  rw [funext same]
  exact filled

/-- Items are determined by what they are filled with. -/
theorem IsFilled.unique {items others : List Value} {kept : Nat -> Option Value}
    (filled : IsFilled items kept) (filled' : IsFilled others kept) : items = others := by
  have sameLength (place : Nat) : place < items.length ↔ place < others.length :=
    (filled.reaches place).trans (filled'.reaches place).symm
  apply List.ext_getElem
  · exact Nat.le_antisymm (Nat.le_of_not_lt fun less => Nat.lt_irrefl _ ((sameLength _).mp less))
      (Nat.le_of_not_lt fun less => Nat.lt_irrefl _ ((sameLength _).mpr less))
  · intro place isPlace isPlace'
    rw [filled.holds place _ (List.getElem?_eq_getElem isPlace),
      filled'.holds place _ (List.getElem?_eq_getElem isPlace')]

theorem length_placeItem (index : Nat) (item : Value) (items : List Value) :
    (placeItem index item items).length = max (index + 1) items.length := by
  fun_induction placeItem index item items with
  | case1 => rfl
  | case2 => simp
  | case3 index item ih => simp [ih]
  | case4 index item first rest ih => simp [ih]

theorem getElem?_placeItem (index : Nat) (item : Value) (items : List Value) (place : Nat) :
    (placeItem index item items)[place]? =
      if place = index then some item
      else items[place]?.or (if place < index then some .undefined else none) := by
  fun_induction placeItem index item items generalizing place with
  | case1 => cases place <;> simp
  | case2 => cases place <;> simp
  | case3 index item ih => cases place <;> simp [ih]
  | case4 index item first rest ih => cases place <;> simp [ih]

/-- Nothing is kept behind the last item. -/
theorem IsFilled.kept_eq_none {items : List Value} {kept : Nat -> Option Value}
    (filled : IsFilled items kept) {place : Nat} (behind : items[place]? = none) :
    kept place = none := by
  cases isKept : kept place with
  | none => rfl
  | some item =>
      have inside := (filled.reaches place).mpr ⟨place, Nat.le_refl place, by simp [isKept]⟩
      exact absurd inside (Nat.not_lt.mpr (List.getElem?_eq_none_iff.mp behind))

/-- An item that is put at a place is what is kept there. -/
theorem IsFilled.placeItem {items : List Value} {kept : Nat -> Option Value}
    (filled : IsFilled items kept) (index : Nat) (item : Value) :
    IsFilled (placeItem index item items)
      fun place => if place = index then some item else kept place where
  reaches := by
    intro place
    rw [length_placeItem]
    constructor
    · intro inside
      by_cases before : place ≤ index
      · exact ⟨index, before, by simp⟩
      · rcases (filled.reaches place).mp (by omega) with ⟨later, notBefore, isKept⟩
        have different : later ≠ index := by omega
        exact ⟨later, notBefore, by simpa [different] using isKept⟩
    · rintro ⟨later, notBefore, isKept⟩
      by_cases same : later = index
      · omega
      · have inside := (filled.reaches place).mpr ⟨later, notBefore, by simpa [same] using isKept⟩
        omega
  holds := by
    intro place found isFound
    rw [getElem?_placeItem] at isFound
    split at isFound
    · rename_i same
      cases isFound
      simp [same]
    · rename_i different
      rw [if_neg different]
      cases isItem : items[place]? with
      | some old =>
          rw [isItem, Option.some_or] at isFound
          rw [← Option.some.inj isFound]
          exact filled.holds place old isItem
      | none =>
          rw [isItem, Option.none_or] at isFound
          rw [filled.kept_eq_none isItem]
          split at isFound
          · cases isFound
            rfl
          · cases isFound

theorem assembleItems_concat {name : String} {index : Nat}
    (isIndex : IntegerText.natural? name = some index) (entries : List (String × Value))
    (item : Value) :
    assembleItems (entries ++ [(name, item)]) =
      Projection.placeItem index item (assembleItems entries) := by
  simp [assembleItems, isIndex]

theorem assembleItems_concat_of_none {name : String} (noIndex : IntegerText.natural? name = none)
    (entries : List (String × Value)) (item : Value) :
    assembleItems (entries ++ [(name, item)]) = assembleItems entries := by
  simp [assembleItems, noIndex]

/-- An array holds the last of what was kept at each position. -/
theorem isFilled_assembleItems (entries : List (String × Value)) :
    IsFilled (assembleItems entries) fun place =>
      lastAt IntegerText.natural? place entries := by
  rw [← entries.reverse_reverse]
  induction entries.reverse with
  | nil => exact isFilled_nil
  | cons entry rest ih =>
      rcases entry with ⟨name, item⟩
      simp only [List.reverse_cons, lastAt_concat]
      cases isIndex : IntegerText.natural? name with
      | none =>
          rw [assembleItems_concat_of_none isIndex]
          simpa using ih
      | some index =>
          rw [assembleItems_concat isIndex]
          refine (ih.placeItem index item).congr fun place => ?_
          simp [eq_comm]

end Projection

end RecordIndex
