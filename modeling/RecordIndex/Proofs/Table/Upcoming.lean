import RecordIndex.Table.Scan

namespace RecordIndex

/-!
# Rows to come

A scan has fetched some rows and has the rest of its range to fetch.  Together
these are the rows to come from a table that does not change, and fetching
moves rows from one part to the other.  When the table does change, rows may
appear and vanish wherever they like between two batches, and a row that stays
is read all the same.
-/

/-! ## An unchanging table -/

namespace Scan

variable {Key Data : Type} [Ord Key]

/-- The rows that are still to come from an unchanging table. -/
def rest (table : Table Key Data) (scan : Scan Key Data) : List (Key × Data) :=
  scan.buffer ++ if scan.done then [] else table.range scan.start scan.stop

theorem rest_of_done {table : Table Key Data} {scan : Scan Key Data} (ended : scan.done = true) :
    scan.rest table = scan.buffer := by
  unfold rest
  rw [ended]
  exact List.append_nil _

theorem rest_of_more {table : Table Key Data} {scan : Scan Key Data} (more : scan.done = false) :
    scan.rest table = scan.buffer ++ table.range scan.start scan.stop := by
  unfold rest
  rw [more]
  rfl

variable [Std.TransOrd Key]

/-- Fetching a batch changes nothing about the rows that are to come. -/
theorem rest_refill {batch : Nat} (positive : 0 < batch) (table : Table Key Data)
    {scan : Scan Key Data} (usedUp : scan.buffer = []) (more : scan.done = false) :
    (scan.refill batch table).rest table = scan.rest table := by
  have parts := List.take_append_drop batch (table.range scan.start scan.stop)
  rw [rest_of_more more, usedUp, List.nil_append]
  by_cases short : ((table.range scan.start scan.stop).take batch).length < batch
  · have whole : (table.range scan.start scan.stop).drop batch = [] := by
      rw [List.length_take] at short
      exact List.drop_eq_nil_of_le (by omega)
    rw [whole, List.append_nil] at parts
    rw [rest_of_done (show (scan.refill batch table).done = true from decide_eq_true short)]
    exact parts
  · rw [rest_of_more (show (scan.refill batch table).done = false from decide_eq_false short)]
    unfold refill
    dsimp only
    split
    · rename_i last isLast
      rw [range_after_batch table scan.start scan.stop batch isLast]
      exact parts
    · rename_i noLast
      rw [List.getLast?_eq_none_iff.mp noLast] at short
      exact absurd positive short

theorem rest_fill {batch : Nat} (positive : 0 < batch) (table : Table Key Data)
    (scan : Scan Key Data) : (scan.fill batch table).rest table = scan.rest table := by
  unfold fill
  split
  · rename_i needed
    rcases Bool.and_eq_true_iff.mp needed with ⟨usedUp, more⟩
    exact rest_refill positive table (List.isEmpty_iff.mp usedUp) ((Bool.not_eq_true' _).mp more)
  · rfl

/-- A scan without fetched rows is at its end. -/
theorem rest_eq_nil_of_fill {batch : Nat} {table : Table Key Data} {scan : Scan Key Data}
    (nothing : (scan.fill batch table).buffer = []) (positive : 0 < batch) :
    scan.rest table = [] := by
  rw [← rest_fill positive table scan]
  have done : (scan.fill batch table).done = true := by
    unfold fill at nothing ⊢
    split at nothing
    · rename_i needed
      rw [if_pos needed]
      have nothing : (table.range scan.start scan.stop).take batch = [] := nothing
      unfold refill
      dsimp only
      rw [nothing]
      exact decide_eq_true positive
    · rename_i notNeeded
      rw [if_neg notNeeded]
      rw [nothing] at notNeeded
      cases ended : scan.done with
      | true => rfl
      | false =>
          rw [ended] at notNeeded
          exact absurd rfl notNeeded
  rw [rest_of_done done, nothing]

/-- The first of the rows to come is read, and the others are left. -/
theorem next_rest {batch : Nat} (positive : 0 < batch) (table : Table Key Data)
    (scan : Scan Key Data) :
    (scan.next batch table).1 = (scan.rest table).head? ∧
      (scan.next batch table).2.rest table = (scan.rest table).tail := by
  have filled := rest_fill positive table scan
  unfold next
  dsimp only
  cases buffer : (scan.fill batch table).buffer with
  | nil =>
      have nothing := rest_eq_nil_of_fill buffer positive
      rw [nothing] at filled ⊢
      exact ⟨rfl, filled⟩
  | cons row rows =>
      rw [← filled]
      unfold rest
      rw [buffer]
      exact ⟨rfl, rfl⟩

/-- The rows are read one after another. -/
theorem next_spec {batch : Nat} (positive : 0 < batch) (table : Table Key Data)
    (scan : Scan Key Data) :
    match scan.next batch table with
    | (none, _) => scan.rest table = []
    | (some row, after) => scan.rest table = row :: after.rest table := by
  rcases next_rest positive table scan with ⟨isFirst, left⟩
  generalize scan.next batch table = read at isFirst left ⊢
  rcases read with ⟨row, after⟩
  cases row with
  | none => exact List.head?_eq_none_iff.mp isFirst.symm
  | some row =>
      rcases List.head?_eq_some_iff.mp isFirst.symm with ⟨others, isRest⟩
      have left : after.rest table = (scan.rest table).tail := left
      rw [isRest] at left
      dsimp only
      rw [isRest, left, List.tail_cons]

end Scan

/-! ## A changing table

A row that stays has been fetched, or it lies in the part of the range that is
still to be fetched, and whatever is read before it has a smaller key.
-/

namespace Scan

variable {Key Data : Type} [Ord Key] {scan : Scan Key Data} {key : Key}

/-- The row of the key has been fetched, or it is still to be fetched and comes
behind all that has been. -/
structure Awaits (key : Key) (scan : Scan Key Data) : Prop where
  ascending : Rows.Ascending scan.buffer
  comes : (∃ data, (key, data) ∈ scan.buffer) ∨
    scan.done = false ∧ scan.start.startsBy key = true ∧ scan.stop.stopsAfter key = true ∧
      ∀ row ∈ scan.buffer, compare row.1 key = .lt

theorem awaits_ofBounds {start stop : Bound Key} (starts : start.startsBy key = true)
    (stops : stop.stopsAfter key = true) : (ofBounds start stop : Scan Key Data).Awaits key :=
  ⟨.nil, .inr ⟨rfl, starts, stops, nofun⟩⟩

/-- All that has been fetched are rows with such keys. -/
def Fetched (legible : Key -> Prop) (scan : Scan Key Data) : Prop :=
  ∀ row ∈ scan.buffer, legible row.1

theorem Fetched.next {legible : Key -> Prop} {table : Table Key Data}
    (rows : ∀ row ∈ table.rows, legible row.1) (fetched : scan.Fetched legible) {batch : Nat}
    {row : Option (Key × Data)} {after : Scan Key Data}
    (reads : scan.next batch table = (row, after)) :
    after.Fetched legible ∧ ∀ read ∈ row, legible read.1 := by
  have filled : (scan.fill batch table).Fetched legible := by
    unfold fill
    split
    · exact fun row member => rows row (List.mem_filter.mp (List.mem_of_mem_take member)).1
    · exact fetched
  unfold Scan.next at reads
  dsimp only at reads
  split at reads
  · cases reads
    exact ⟨filled, nofun⟩
  · rename_i first rest isBuffer
    cases reads
    unfold Fetched at filled
    rw [isBuffer] at filled
    refine ⟨fun row member => filled row (List.mem_cons_of_mem first member), ?_⟩
    intro read same
    cases same
    exact filled first List.mem_cons_self

variable {batch : Nat} {table : Table Key Data}

/-- A batch holds the row that is awaited, or it is full and the row comes
behind it. -/
theorem Awaits.refill (awaits : scan.Awaits key) (positive : 0 < batch)
    (isThere : ∃ data, (key, data) ∈ table.rows) (usedUp : scan.buffer = []) :
    (scan.refill batch table).Awaits key ∧ (scan.refill batch table).buffer ≠ [] := by
  rcases awaits.comes with ⟨data, isFetched⟩ | ⟨_, starts, stops, _⟩
  · rw [usedUp] at isFetched
    cases isFetched
  · rcases isThere with ⟨data, isRow⟩
    have inRange : (key, data) ∈ table.range scan.start scan.stop :=
      List.mem_filter.mpr ⟨isRow, Bool.and_eq_true_iff.mpr ⟨starts, stops⟩⟩
    have ascending := table.ascending_range scan.start scan.stop
    rw [← List.take_append_drop batch (table.range scan.start scan.stop)] at inRange ascending
    rcases List.pairwise_append.mp ascending with ⟨taken, _, below⟩
    rcases List.mem_append.mp inRange with isTaken | isLeft
    · exact ⟨⟨taken, .inl ⟨data, isTaken⟩⟩, List.ne_nil_of_mem isTaken⟩
    · have full : ((table.range scan.start scan.stop).take batch).length = batch := by
        have left := List.length_pos_of_mem isLeft
        rw [List.length_drop] at left
        rw [List.length_take]
        omega
      have some_ : (table.range scan.start scan.stop).take batch ≠ [] :=
        List.ne_nil_of_length_pos (full.symm ▸ positive)
      have behind : ∀ row ∈ (table.range scan.start scan.stop).take batch,
          compare row.1 key = .lt := fun row isTaken => below row isTaken (key, data) isLeft
      refine ⟨⟨taken, .inr ⟨decide_eq_false (by omega), ?_, stops, behind⟩⟩, some_⟩
      have isLast := List.getLast?_eq_some_getLast some_
      unfold Scan.refill
      dsimp only
      rw [isLast]
      exact Ordering.isLT_iff_eq_lt.mpr (behind _ (List.getLast_mem some_))

theorem Awaits.fill (awaits : scan.Awaits key) (positive : 0 < batch)
    (isThere : ∃ data, (key, data) ∈ table.rows) :
    (scan.fill batch table).Awaits key ∧ (scan.fill batch table).buffer ≠ [] := by
  unfold Scan.fill
  split
  · rename_i needed
    exact awaits.refill positive isThere
      (List.isEmpty_iff.mp (Bool.and_eq_true_iff.mp needed).1)
  · rename_i notNeeded
    refine ⟨awaits, fun usedUp => notNeeded ?_⟩
    rcases awaits.comes with ⟨data, isFetched⟩ | ⟨more, _⟩
    · rw [usedUp] at isFetched
      cases isFetched
    · rw [usedUp, more]
      rfl

/-- As long as the row that is awaited is there, the scan yields it or a row
before it. -/
theorem Awaits.next (awaits : scan.Awaits key) (positive : 0 < batch)
    (isThere : ∃ data, (key, data) ∈ table.rows) :
    match scan.next batch table with
    | (none, _) => False
    | (some row, after) => row.1 = key ∨ compare row.1 key = .lt ∧ after.Awaits key := by
  rcases awaits.fill positive isThere with ⟨awaits, more⟩
  unfold Scan.next
  dsimp only
  cases isBuffer : (scan.fill batch table).buffer with
  | nil => exact more isBuffer
  | cons row rest =>
      dsimp only
      have ascending := awaits.ascending
      have comes := awaits.comes
      rw [isBuffer] at ascending comes
      rcases List.pairwise_cons.mp ascending with ⟨isFirst, ascending⟩
      rcases comes with ⟨data, isFetched⟩ | ⟨more, starts, stops, behind⟩
      · rcases List.mem_cons.mp isFetched with same | later
        · exact .inl (congrArg Prod.fst same.symm)
        · exact .inr ⟨isFirst _ later, ascending, .inl ⟨data, later⟩⟩
      · exact .inr ⟨behind row List.mem_cons_self, ascending, .inr ⟨more, starts, stops,
          fun row later => behind row (List.mem_cons_of_mem _ later)⟩⟩

end Scan

end RecordIndex
