import RecordIndex.Table

namespace RecordIndex

/-!
# Scans

A scan reads the rows of a range a batch at a time.  Each batch is a fresh
look at the table as it is at that moment, resuming after the last key seen,
so a scan holds no view of the table open while its rows are consumed.  The
table is therefore an argument of every step and not a part of the scan.  Each
look stands for one read transaction of `redb`, which sees the table as the
last write transaction left it.

`remaining` bounds the steps a scan still has on an unchanging table; every
step that yields a row lowers it.
-/

/-- A read of a range in progress: the part of the range that is still to be
fetched, and the fetched rows that are still to be yielded. -/
structure Scan (Key Data : Type) where
  start : Bound Key
  stop : Bound Key
  buffer : List (Key × Data)
  /-- The last batch came out short, so nothing is left to fetch. -/
  done : Bool

namespace Scan

variable {Key Data : Type} [Ord Key]

/-- A scan of a range before its first batch. -/
def ofBounds (start stop : Bound Key) : Scan Key Data :=
  ⟨start, stop, [], false⟩

/-- Fetch the next batch.  A batch shorter than asked for is the last. -/
def refill (batch : Nat) (table : Table Key Data) (scan : Scan Key Data) : Scan Key Data :=
  let rows := (table.range scan.start scan.stop).take batch
  { scan with
    start := match rows.getLast? with
      | some last => .excluded last.1
      | none => scan.start
    buffer := rows
    done := decide (rows.length < batch) }

/-- Fetch a batch when the last one is used up and another may follow. -/
def fill (batch : Nat) (table : Table Key Data) (scan : Scan Key Data) : Scan Key Data :=
  if scan.buffer.isEmpty && !scan.done then scan.refill batch table else scan

/-- The next row, read from the table as it is now. -/
def next (batch : Nat) (table : Table Key Data) (scan : Scan Key Data) :
    Option (Key × Data) × Scan Key Data :=
  let filled := scan.fill batch table
  match filled.buffer with
  | [] => (none, filled)
  | row :: rest => (some row, { filled with buffer := rest })

/-- An upper bound on the rows still to come from an unchanging table. -/
def remaining (table : Table Key Data) (scan : Scan Key Data) : Nat :=
  scan.buffer.length + if scan.done then 0 else (table.range scan.start scan.stop).length

/-! ## Progress

After a batch, the range that is left holds only rows behind that batch. -/

/-- In ascending rows, no row is behind the last one. -/
private theorem not_after_last {rows : List (Key × Data)} (ascending : Rows.Ascending rows)
    [Std.TransOrd Key] {last : Key × Data} (isLast : rows.getLast? = some last)
    {row : Key × Data} (member : row ∈ rows) : (compare last.1 row.1).isLT = false := by
  induction rows with
  | nil => cases member
  | cons head rest ih =>
      have parts := List.pairwise_cons.mp ascending
      cases rest with
      | nil =>
          cases isLast
          have same := List.mem_singleton.mp member
          subst same
          exact congrArg Ordering.isLT (Std.ReflCmp.compare_self : compare row.1 row.1 = .eq)
      | cons next rest =>
          rw [List.getLast?_cons_cons] at isLast
          rcases List.mem_cons.mp member with same | later
          · have below := parts.1 last (List.mem_of_getLast? isLast)
            rw [same, Std.OrientedCmp.gt_of_lt below]
            rfl
          · exact ih parts.2 isLast later

/-- A key behind one that a range has started by is one that it has started by. -/
theorem startsBy_of_after [Std.TransOrd Key] {start : Bound Key} {first key : Key}
    (starts : start.startsBy first = true) (after : (compare first key).isLT = true) :
    start.startsBy key = true := by
  have after := Ordering.isLT_iff_eq_lt.mp after
  cases start with
  | unbounded => rfl
  | included low => exact Ordering.isLE_of_eq_lt (Std.TransCmp.lt_of_isLE_of_lt starts after)
  | excluded low =>
      exact Ordering.isLT_iff_eq_lt.mpr
        (Std.TransCmp.lt_trans (Ordering.isLT_iff_eq_lt.mp starts) after)

/-- What lies behind the last row of a batch is what the batch left over. -/
theorem range_after_batch [Std.TransOrd Key] (table : Table Key Data)
    (start stop : Bound Key) (batch : Nat) {last : Key × Data}
    (isLast : ((table.range start stop).take batch).getLast? = some last) :
    table.range (.excluded last.1) stop = (table.range start stop).drop batch := by
  have lastInRange : last ∈ table.range start stop :=
    List.mem_of_mem_take (List.mem_of_getLast? isLast)
  have lastStarts : start.startsBy last.1 = true := by
    have both := (List.mem_filter.mp lastInRange).2
    exact (Bool.and_eq_true_iff.mp both).1
  have restricted : table.range (.excluded last.1) stop =
      (table.range start stop).filter fun row => (compare last.1 row.1).isLT := by
    unfold Table.range
    rw [List.filter_filter]
    apply List.filter_congr
    intro row _
    cases after : (compare last.1 row.1).isLT with
    | false => simp only [Bound.startsBy, after, Bool.false_and]
    | true =>
        rw [startsBy_of_after lastStarts after, Bool.true_and, Bool.true_and]
        simp only [Bound.startsBy, after, Bool.true_and]
  have ascending := table.ascending_range start stop
  have noneBefore : ((table.range start stop).take batch).filter
      (fun row => (compare last.1 row.1).isLT) = [] := by
    apply List.filter_eq_nil_iff.mpr
    intro row member
    rw [not_after_last (List.Pairwise.sublist (List.take_sublist _ _) ascending) isLast member]
    exact Bool.false_ne_true
  have allAfter : ((table.range start stop).drop batch).filter
      (fun row => (compare last.1 row.1).isLT) = (table.range start stop).drop batch := by
    apply List.filter_eq_self.mpr
    intro row member
    rw [← List.take_append_drop batch (table.range start stop)] at ascending
    have below := (List.pairwise_append.mp ascending).2.2
    exact Ordering.isLT_iff_eq_lt.mpr (below last (List.mem_of_getLast? isLast) row member)
  rw [restricted]
  conv => lhs; rw [← List.take_append_drop batch (table.range start stop)]
  rw [List.filter_append, noneBefore, allAfter, List.nil_append]

private theorem zero_or_le (c : Prop) [Decidable c] (n : Nat) : (if c then 0 else n) ≤ n := by
  split <;> omega

theorem remaining_fill_le [Std.TransOrd Key] (batch : Nat) (table : Table Key Data)
    (scan : Scan Key Data) : (scan.fill batch table).remaining table ≤ scan.remaining table := by
  unfold fill
  split
  · rename_i needed
    obtain ⟨noBuffer, notDone⟩ := Bool.and_eq_true_iff.mp needed
    have noBuffer : scan.buffer = [] := List.isEmpty_iff.mp noBuffer
    have notDone : scan.done = false := by simpa using notDone
    simp only [remaining, refill, noBuffer, notDone, List.length_nil, Nat.zero_add,
      Bool.false_eq_true, if_false]
    have lengths := congrArg List.length
      (List.take_append_drop batch (table.range scan.start scan.stop))
    rw [List.length_append] at lengths
    cases isLast : ((table.range scan.start scan.stop).take batch).getLast? with
    | none =>
        have empty := List.getLast?_eq_none_iff.mp isLast
        simp only [empty, List.length_nil, Nat.zero_add]
        split
        · exact Nat.zero_le _
        · exact Nat.le_refl _
    | some last =>
        have rest := congrArg List.length
          (range_after_batch table scan.start scan.stop batch isLast)
        exact Nat.le_trans (Nat.add_le_add_left (zero_or_le _ _) _) (by simp only; omega)
  · exact Nat.le_refl _

/-- A row that is yielded no longer remains. -/
theorem remaining_next_lt [Std.TransOrd Key] {batch : Nat} {table : Table Key Data}
    {scan after : Scan Key Data} {row : Key × Data}
    (yields : scan.next batch table = (some row, after)) :
    after.remaining table < scan.remaining table := by
  have filled := remaining_fill_le batch table scan
  unfold next at yields
  simp only at yields
  split at yields
  · cases yields
  · rename_i head rest isBuffer
    cases yields
    simp only [remaining, isBuffer, List.length_cons] at filled ⊢
    omega

end Scan

end RecordIndex
