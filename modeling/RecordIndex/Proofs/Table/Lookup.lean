import RecordIndex.Table

namespace RecordIndex

/-!
# Looking up rows

A table is known by what it answers under each key.  The laws here say what
every operation does to those answers, so that nothing else has to look into
the rows.  Keys that compare as equal are taken to be equal, which holds for
the texts and the bytes that serve as keys.
-/

namespace Rows

variable {Key Data : Type} [Ord Key] [Std.LawfulEqOrd Key]

theorem compare_self (key : Key) : compare key key = .eq :=
  Std.ReflCmp.compare_self

theorem not_lt_self (key : Key) : compare key key ≠ .lt := by
  rw [compare_self]
  exact nofun

theorem compare_beq_eq_of_ne {key other : Key} (different : key ≠ other) :
    (compare key other == .eq) = false := by
  cases order : compare key other with
  | eq => exact absurd (Std.LawfulEqCmp.eq_of_compare order) different
  | lt => rfl
  | gt => rfl

theorem compare_beq_eq_self (key : Key) : (compare key key == .eq) = true := by
  rw [compare_self]
  rfl

theorem get?_cons_self (key : Key) (data : Data) (rest : List (Key × Data)) :
    get? key ((key, data) :: rest) = some data := by
  simp only [get?, compare_beq_eq_self, if_true]

theorem get?_cons_of_ne {key other : Key} (different : key ≠ other) (data : Data)
    (rest : List (Key × Data)) : get? key ((other, data) :: rest) = get? key rest := by
  simp only [get?, compare_beq_eq_of_ne different, Bool.false_eq_true, if_false]

theorem erase_cons_self (key : Key) (data : Data) (rest : List (Key × Data)) :
    erase key ((key, data) :: rest) = erase key rest := by
  simp only [erase, List.filter_cons, bne, compare_beq_eq_self, Bool.not_true, Bool.false_eq_true,
    if_false]

theorem erase_cons_of_ne {key other : Key} (different : key ≠ other) (data : Data)
    (rest : List (Key × Data)) :
    erase key ((other, data) :: rest) = (other, data) :: erase key rest := by
  simp only [erase, List.filter_cons, bne, compare_beq_eq_of_ne different, Bool.not_false, if_true]

/-! ## After a change -/

theorem get?_insert_self (key : Key) (data : Data) (rows : List (Key × Data)) :
    get? key (insert key data rows) = some data := by
  induction rows with
  | nil => exact get?_cons_self key data []
  | cons head rest ih =>
      obtain ⟨other, old⟩ := head
      unfold insert
      split
      · exact get?_cons_self key data _
      · exact get?_cons_self key data _
      · rename_i above
        have different : key ≠ other := by
          rintro rfl
          rw [compare_self] at above
          cases above
        rw [get?_cons_of_ne different, ih]

theorem get?_insert_of_ne {key other : Key} (different : other ≠ key) (data : Data)
    (rows : List (Key × Data)) : get? other (insert key data rows) = get? other rows := by
  induction rows with
  | nil => exact get?_cons_of_ne different data []
  | cons head rest ih =>
      obtain ⟨first, old⟩ := head
      unfold insert
      split
      · exact get?_cons_of_ne different data _
      · rename_i equal
        have same : key = first := Std.LawfulEqCmp.eq_of_compare equal
        rw [get?_cons_of_ne different, get?_cons_of_ne (same ▸ different)]
      · by_cases same : other = first
        · rw [same, get?_cons_self, get?_cons_self]
        · rw [get?_cons_of_ne same, get?_cons_of_ne same, ih]

theorem get?_erase_self (key : Key) (rows : List (Key × Data)) :
    get? key (erase key rows) = none := by
  induction rows with
  | nil => rfl
  | cons head rest ih =>
      obtain ⟨other, data⟩ := head
      by_cases same : key = other
      · subst same
        rw [erase_cons_self, ih]
      · rw [erase_cons_of_ne same, get?_cons_of_ne same, ih]

theorem get?_erase_of_ne {key other : Key} (different : other ≠ key)
    (rows : List (Key × Data)) : get? other (erase key rows) = get? other rows := by
  induction rows with
  | nil => rfl
  | cons head rest ih =>
      obtain ⟨first, data⟩ := head
      by_cases same : key = first
      · subst same
        rw [erase_cons_self, ih, get?_cons_of_ne different]
      · rw [erase_cons_of_ne same]
        by_cases here : other = first
        · rw [here, get?_cons_self, get?_cons_self]
        · rw [get?_cons_of_ne here, get?_cons_of_ne here, ih]

/-! ## Rows and answers -/

/-- In ascending rows the keys are distinct, so a row is an answer. -/
theorem get?_eq_some_iff {rows : List (Key × Data)} (ascending : Ascending rows) {key : Key}
    {data : Data} : get? key rows = some data ↔ (key, data) ∈ rows := by
  induction rows with
  | nil => exact ⟨nofun, nofun⟩
  | cons head rest ih =>
      obtain ⟨other, old⟩ := head
      have parts := List.pairwise_cons.mp ascending
      by_cases same : key = other
      · subst same
        rw [get?_cons_self]
        constructor
        · intro equal
          cases equal
          exact List.mem_cons_self
        · intro member
          rcases List.mem_cons.mp member with here | later
          · cases here
            rfl
          · exact absurd (parts.1 _ later) (not_lt_self key)
      · rw [get?_cons_of_ne same, ih parts.2]
        constructor
        · exact List.mem_cons_of_mem _
        · intro member
          rcases List.mem_cons.mp member with here | later
          · cases here
            exact absurd rfl same
          · exact later

/-- An answer is a row, whatever the order of the rows. -/
theorem mem_of_get? {rows : List (Key × Data)} {key : Key} {data : Data}
    (found : get? key rows = some data) : (key, data) ∈ rows := by
  induction rows with
  | nil => cases found
  | cons head rest ih =>
      obtain ⟨other, old⟩ := head
      by_cases same : key = other
      · subst same
        rw [get?_cons_self] at found
        cases found
        exact List.mem_cons_self
      · rw [get?_cons_of_ne same] at found
        exact List.mem_cons_of_mem _ (ih found)

theorem Ascending.nodup {rows : List (Key × Data)} (ascending : Ascending rows) : rows.Nodup := by
  refine List.Pairwise.imp ?_ ascending
  intro first second below same
  exact not_lt_self second.1 (same ▸ below)

theorem Ascending.nodup_keys {rows : List (Key × Data)} (ascending : Ascending rows) :
    (rows.map Prod.fst).Nodup := by
  refine List.pairwise_map.mpr (List.Pairwise.imp ?_ ascending)
  intro first second below same
  exact not_lt_self second.1 (same ▸ below)

/-- Ascending rows are determined by which rows they are. -/
theorem eq_of_mem_iff [Std.OrientedOrd Key] {first second : List (Key × Data)}
    (ascending : Ascending first) (ascending' : Ascending second)
    (same : forall row, row ∈ first ↔ row ∈ second) : first = second := by
  have permuted := (List.perm_ext_iff_of_nodup ascending.nodup ascending'.nodup).mpr same
  refine permuted.eq_of_pairwise ?_ ascending ascending'
  intro row row' _ _ below above
  rw [Std.OrientedCmp.gt_of_lt above] at below
  cases below

/-- Ascending rows are determined by what they answer. -/
theorem eq_of_get?_eq [Std.OrientedOrd Key] {first second : List (Key × Data)}
    (ascending : Ascending first) (ascending' : Ascending second)
    (same : forall key, get? key first = get? key second) : first = second := by
  refine eq_of_mem_iff ascending ascending' ?_
  rintro ⟨key, data⟩
  rw [← get?_eq_some_iff ascending, ← get?_eq_some_iff ascending', same]

end Rows

namespace Table

variable {Key Data : Type} [Ord Key]

@[simp] theorem get?_empty (key : Key) : (empty : Table Key Data).get? key = none :=
  rfl

theorem contains_eq_false_iff (table : Table Key Data) {key : Key} :
    table.contains key = false ↔ table.get? key = none := by
  rw [contains, Option.isSome_eq_false_iff, Option.isNone_iff_eq_none]

variable [Std.LawfulEqOrd Key]

@[simp] theorem get?_erase_self (table : Table Key Data) (key : Key) :
    (table.erase key).get? key = none :=
  Rows.get?_erase_self key table.rows

theorem get?_erase_of_ne {key other : Key} (different : other ≠ key) (table : Table Key Data) :
    (table.erase key).get? other = table.get? other :=
  Rows.get?_erase_of_ne different table.rows

theorem get?_eq_some_iff (table : Table Key Data) {key : Key} {data : Data} :
    table.get? key = some data ↔ (key, data) ∈ table.rows :=
  Rows.get?_eq_some_iff table.ascending

theorem mem_range_iff (table : Table Key Data) {start stop : Bound Key} {key : Key}
    {data : Data} : (key, data) ∈ table.range start stop ↔
      table.get? key = some data ∧ (start.startsBy key && stop.stopsAfter key) = true := by
  unfold range
  rw [List.mem_filter, get?_eq_some_iff]

/-- Tables that hold the same are the same. -/
theorem eq_of_get?_eq [Std.TransOrd Key] {first second : Table Key Data}
    (same : forall key, first.get? key = second.get? key) : first = second :=
  ext (Rows.eq_of_get?_eq first.ascending second.ascending same)

theorem get?_eraseAll_of_notMem {key : Key} {keys : List Key} (absent : key ∉ keys)
    (table : Table Key Data) : (table.eraseAll keys).get? key = table.get? key := by
  induction keys generalizing table with
  | nil => rfl
  | cons first rest ih =>
      rw [List.mem_cons, not_or] at absent
      exact (ih absent.2 (table.erase first)).trans (get?_erase_of_ne absent.1 table)

theorem get?_eraseAll_of_none {key : Key} {table : Table Key Data}
    (missing : table.get? key = none) (keys : List Key) :
    (table.eraseAll keys).get? key = none := by
  induction keys generalizing table with
  | nil => exact missing
  | cons first rest ih =>
      have stillMissing : (table.erase first).get? key = none := by
        by_cases same : key = first
        · rw [same, get?_erase_self]
        · rw [get?_erase_of_ne same, missing]
      exact ih stillMissing

theorem get?_eraseAll_of_mem {key : Key} {keys : List Key} (present : key ∈ keys)
    (table : Table Key Data) : (table.eraseAll keys).get? key = none := by
  induction keys generalizing table with
  | nil => cases present
  | cons first rest ih =>
      rcases List.mem_cons.mp present with here | later
      · exact get?_eraseAll_of_none (here ▸ get?_erase_self table first) rest
      · exact ih later (table.erase first)

/-- The data of some of the rows. -/
theorem mem_map_filter_iff (table : Table Key Data) {keep : Key × Data -> Bool} {data : Data} :
    data ∈ (table.rows.filter keep).map Prod.snd ↔
      ∃ key, table.get? key = some data ∧ keep (key, data) = true := by
  constructor
  · intro member
    obtain ⟨⟨key, _⟩, isKept, rfl⟩ := List.mem_map.mp member
    obtain ⟨isRow, keeps⟩ := List.mem_filter.mp isKept
    exact ⟨key, table.get?_eq_some_iff.mpr isRow, keeps⟩
  · rintro ⟨key, found, keeps⟩
    exact List.mem_map.mpr
      ⟨_, List.mem_filter.mpr ⟨table.get?_eq_some_iff.mp found, keeps⟩, rfl⟩

theorem mem_values_iff (table : Table Key Data) {data : Data} :
    data ∈ table.values ↔ ∃ key, table.get? key = some data := by
  constructor
  · intro member
    obtain ⟨⟨key, _⟩, inRows, rfl⟩ := List.mem_map.mp member
    exact ⟨key, table.get?_eq_some_iff.mpr inRows⟩
  · rintro ⟨key, found⟩
    exact List.mem_map.mpr ⟨_, table.get?_eq_some_iff.mp found, rfl⟩

variable [Std.TransOrd Key]

@[simp] theorem get?_insert_self (table : Table Key Data) (key : Key) (data : Data) :
    (table.insert key data).get? key = some data :=
  Rows.get?_insert_self key data table.rows

theorem get?_insert_of_ne {key other : Key} (different : other ≠ key) (table : Table Key Data)
    (data : Data) : (table.insert key data).get? other = table.get? other :=
  Rows.get?_insert_of_ne different data table.rows

theorem get?_insertAll_of_notMem {key : Key} {rows : List (Key × Data)}
    (absent : ∀ row ∈ rows, row.1 ≠ key) (table : Table Key Data) :
    (table.insertAll rows).get? key = table.get? key := by
  induction rows generalizing table with
  | nil => rfl
  | cons first rest ih =>
      have different : key ≠ first.1 := fun same => absent first List.mem_cons_self same.symm
      exact (ih (fun row member => absent row (List.mem_cons_of_mem _ member)) _).trans
        (get?_insert_of_ne different table first.2)

/-- Of many inserted rows, those under one key are taken to agree. -/
theorem get?_insertAll_of_mem {key : Key} {data : Data} {rows : List (Key × Data)}
    (present : (key, data) ∈ rows) (agree : ∀ row ∈ rows, row.1 = key -> row.2 = data)
    (table : Table Key Data) : (table.insertAll rows).get? key = some data := by
  induction rows generalizing table with
  | nil => cases present
  | cons first rest ih =>
      have restAgrees := fun row member => agree row (List.mem_cons_of_mem first member)
      by_cases later : (key, data) ∈ rest
      · exact ih later restAgrees (table.insert first.1 first.2)
      · have here : (key, data) = first := (List.mem_cons.mp present).resolve_right later
        subst here
        have absent : ∀ row ∈ rest, row.1 ≠ key := by
          intro row member same
          have equal := restAgrees row member same
          exact later (by rw [← same, ← equal]; exact member)
        exact (get?_insertAll_of_notMem absent _).trans (get?_insert_self table key data)

/-- A table that is made of rows has exactly those rows, when rows under one key
agree. -/
theorem get?_insertAll_empty_iff {rows : List (Key × Data)}
    (agree : ∀ row ∈ rows, ∀ row' ∈ rows, row.1 = row'.1 -> row.2 = row'.2) {key : Key}
    {data : Data} :
    ((empty : Table Key Data).insertAll rows).get? key = some data ↔ (key, data) ∈ rows := by
  constructor
  · intro found
    by_cases present : ∃ row ∈ rows, row.1 = key
    · rcases present with ⟨row, member, rfl⟩
      have inserted := get?_insertAll_of_mem member (fun row' member' same =>
        agree row' member' row member same) (empty : Table Key Data)
      rw [found] at inserted
      rw [Option.some.inj inserted]
      exact member
    · have absent : ∀ row ∈ rows, row.1 ≠ key := fun row member same => present ⟨row, member, same⟩
      rw [get?_insertAll_of_notMem absent, get?_empty] at found
      cases found
  · intro member
    exact get?_insertAll_of_mem member (fun row member' same => agree row member' _ member same) _

/-- Store the data of another table again, each of it under its own key. -/
theorem get?_foldl_insert_values {Data' : Type} {keyOf : Data -> Key} (make : Data -> Data')
    {other : Table Key Data}
    (keyed : forall key data, other.get? key = some data -> keyOf data = key)
    (table : Table Key Data') (key : Key) :
    (other.values.foldl (fun table data => table.insert (keyOf data) (make data)) table).get? key =
      ((other.get? key).map make).or (table.get? key) := by
  have inserted : other.values.foldl (fun table data => table.insert (keyOf data) (make data))
      table = table.insertAll (other.values.map fun data => (keyOf data, make data)) := by
    unfold insertAll
    rw [List.foldl_map]
  rw [inserted]
  cases found : other.get? key with
  | none =>
      refine get?_insertAll_of_notMem ?_ table
      intro row member same
      rcases List.mem_map.mp member with ⟨data, isData, rfl⟩
      rcases other.mem_values_iff.mp isData with ⟨key', found'⟩
      have same : key' = key := (keyed key' data found').symm.trans same
      rw [← same, found'] at found
      cases found
  | some data =>
      refine get?_insertAll_of_mem (List.mem_map.mpr ⟨data, ?_, ?_⟩) ?_ table
      · exact other.mem_values_iff.mpr ⟨key, found⟩
      · rw [keyed key data found]
      · intro row member same
        rcases List.mem_map.mp member with ⟨data', isData, rfl⟩
        rcases other.mem_values_iff.mp isData with ⟨key', found'⟩
        have same : key' = key := (keyed key' data' found').symm.trans same
        rw [same, found] at found'
        exact congrArg make (Option.some.inj found').symm

end Table

end RecordIndex
