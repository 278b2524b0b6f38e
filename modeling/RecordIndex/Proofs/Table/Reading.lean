import RecordIndex.Proofs.Table.Upcoming

namespace RecordIndex

/-!
# Reading a range while its table changes

Whoever reads a range pulls its rows from a scan one at a time, and writes may
be committed between two pulls.  As the scan holds no view of the table open,
what the rows have to do with the table is a matter of all the states that it
has been in: each row is a row of one of them, and a key that is in all of them
is not skipped.
-/

/-- One write to a table.  A row that is inserted takes the place of what its
key held before. -/
inductive Table.Edit (Key Data : Type) where
  | insert (key : Key) (data : Data)
  | erase (key : Key)

/-- What is done while a range is read. -/
inductive RangeTurn (Key Data : Type) where
  /-- Some writes are committed together. -/
  | commit (edits : List (Table.Edit Key Data))
  /-- The next row is asked for. -/
  | pull

/-- A range that is being read, the rows that it has yielded so far, and whether
a pull has come upon its end. -/
structure RangeReading (Key Data : Type) [Ord Key] where
  table : Table Key Data
  scan : Scan Key Data
  yielded : List (Key × Data)
  ended : Bool

variable {Key Data : Type} [Ord Key] [Std.TransOrd Key]

def Table.edit (table : Table Key Data) : Edit Key Data -> Table Key Data
  | .insert key data => table.insert key data
  | .erase key => table.erase key

/-- The table after a turn. -/
def RangeTurn.onTable (table : Table Key Data) : RangeTurn Key Data -> Table Key Data
  | .commit edits => edits.foldl Table.edit table
  | .pull => table

/-- Every state of the table while some turns are taken, the first one included. -/
def RangeTurn.states (table : Table Key Data) : List (RangeTurn Key Data) -> List (Table Key Data)
  | [] => [table]
  | turn :: rest => table :: states (turn.onTable table) rest

/-! ## A scan that goes on -/

namespace Scan

variable {batch : Nat} {start stop : Bound Key} {scan : Scan Key Data}
  {seen : Key × Data -> Prop} {yielded : List (Key × Data)}

/-- The scan goes on with a read of a range that has yielded some rows, where
`seen` tells the rows that have been in the table. -/
structure Continues (start stop : Bound Key) (seen : Key × Data -> Prop)
    (yielded : List (Key × Data)) (scan : Scan Key Data) : Prop where
  ascending : Rows.Ascending (yielded ++ scan.buffer)
  inside : ∀ row ∈ yielded ++ scan.buffer,
    (start.startsBy row.1 = true ∧ stop.stopsAfter row.1 = true) ∧ seen row
  sameStop : scan.stop = stop
  /-- What is left to fetch lies in the range, behind all that has been fetched. -/
  resumes : forall key, scan.start.startsBy key = true ->
    start.startsBy key = true ∧ ∀ row ∈ yielded ++ scan.buffer, compare row.1 key = .lt

omit [Std.TransOrd Key] in
theorem continues_ofBounds (start stop : Bound Key) :
    (ofBounds start stop).Continues start stop seen [] :=
  ⟨.nil, nofun, rfl, fun _ starts => ⟨starts, nofun⟩⟩

/-- A batch that is fetched comes behind what has been yielded. -/
theorem Continues.refill (continues : scan.Continues start stop seen yielded)
    {table : Table Key Data} (isSeen : ∀ row ∈ table.rows, seen row) (usedUp : scan.buffer = []) :
    (scan.refill batch table).Continues start stop seen yielded := by
  rcases continues with ⟨ascending, inside, sameStop, resumes⟩
  rw [usedUp, List.append_nil] at ascending inside resumes
  have fromRange : ∀ row ∈ (table.range scan.start scan.stop).take batch,
      row ∈ table.rows ∧ scan.start.startsBy row.1 = true ∧ stop.stopsAfter row.1 = true := by
    intro row member
    rcases List.mem_filter.mp (List.mem_of_mem_take member) with ⟨isRow, inRange⟩
    exact ⟨isRow, sameStop ▸ Bool.and_eq_true_iff.mp inRange⟩
  have ascends : Rows.Ascending ((table.range scan.start scan.stop).take batch) :=
    (table.ascending_range scan.start scan.stop).sublist (List.take_sublist _ _)
  unfold Scan.refill
  generalize (table.range scan.start scan.stop).take batch = rows at fromRange ascends
  refine ⟨?_, ?_, sameStop, ?_⟩
  · refine List.pairwise_append.mpr ⟨ascending, ascends, fun earlier isEarlier row member => ?_⟩
    exact (resumes row.1 (fromRange row member).2.1).2 earlier isEarlier
  · intro row member
    rcases List.mem_append.mp member with isEarlier | isNew
    · exact inside row isEarlier
    · rcases fromRange row isNew with ⟨isRow, starts, stops⟩
      exact ⟨⟨(resumes row.1 starts).1, stops⟩, isSeen row isRow⟩
  · intro key starts
    dsimp only at starts ⊢
    split at starts
    · rename_i last isLast
      rcases List.getLast?_eq_some_iff.mp isLast with ⟨before, rfl⟩
      have isHigher : compare last.1 key = .lt := Ordering.isLT_iff_eq_lt.mp starts
      have isRow : last ∈ before ++ [last] := List.mem_append_right _ (List.mem_singleton_self last)
      have lastStarts := (fromRange last isRow).2.1
      have resumed := resumes key (startsBy_of_after lastStarts starts)
      refine ⟨resumed.1, fun row member => ?_⟩
      rcases List.mem_append.mp member with isEarlier | isNew
      · exact resumed.2 row isEarlier
      · rcases List.mem_append.mp isNew with isBefore | here
        · exact Std.TransCmp.lt_trans ((List.pairwise_append.mp ascends).2.2 row isBefore last
            (List.mem_singleton_self last)) isHigher
        · exact List.mem_singleton.mp here ▸ isHigher
    · rename_i noLast
      rw [List.getLast?_eq_none_iff.mp noLast, List.append_nil]
      exact resumes key starts

theorem Continues.fill (continues : scan.Continues start stop seen yielded)
    {table : Table Key Data} (isSeen : ∀ row ∈ table.rows, seen row) :
    (scan.fill batch table).Continues start stop seen yielded := by
  unfold Scan.fill
  split
  · rename_i needed
    exact continues.refill isSeen (List.isEmpty_iff.mp (Bool.and_eq_true_iff.mp needed).1)
  · exact continues

/-- A row that is yielded has been fetched before. -/
theorem Continues.next (continues : scan.Continues start stop seen yielded) (batch : Nat)
    {table : Table Key Data} (isSeen : ∀ row ∈ table.rows, seen row) :
    match scan.next batch table with
    | (none, after) => after.Continues start stop seen yielded
    | (some row, after) => after.Continues start stop seen (yielded ++ [row]) := by
  have filled : (scan.fill batch table).Continues start stop seen yielded := continues.fill isSeen
  unfold Scan.next
  dsimp only
  cases isBuffer : (scan.fill batch table).buffer with
  | nil => exact filled
  | cons row rest =>
      rcases filled with ⟨ascending, inside, sameStop, resumes⟩
      rw [isBuffer, List.append_cons] at ascending inside resumes
      exact ⟨ascending, inside, sameStop, resumes⟩

end Scan

/-! ## Readings -/

namespace RangeReading

/-- Nothing of the range has been read yet. -/
def opened (table : Table Key Data) (start stop : Bound Key) : RangeReading Key Data :=
  ⟨table, .ofBounds start stop, [], false⟩

def pulled (batch : Nat) (reading : RangeReading Key Data) : RangeReading Key Data :=
  match reading.scan.next batch reading.table with
  | (some row, scan) => { reading with scan, yielded := reading.yielded ++ [row] }
  | (none, scan) => { reading with scan, ended := true }

/-- What becomes of a reading in a turn. -/
def turn (batch : Nat) (reading : RangeReading Key Data) :
    RangeTurn Key Data -> RangeReading Key Data
  | .commit edits => { reading with table := (RangeTurn.commit edits).onTable reading.table }
  | .pull => reading.pulled batch

def run (batch : Nat) (turns : List (RangeTurn Key Data)) (reading : RangeReading Key Data) :
    RangeReading Key Data :=
  turns.foldl (turn batch) reading

/-- The rows of a range, as they are read from a table that was in these states. -/
structure Reads (start stop : Bound Key) (states : List (Table Key Data))
    (reading : RangeReading Key Data) : Prop where
  ascending : Rows.Ascending reading.yielded
  inside : ∀ row ∈ reading.yielded, start.startsBy row.1 = true ∧ stop.stopsAfter row.1 = true
  seen : ∀ row ∈ reading.yielded, ∃ state ∈ states, row ∈ state.rows
  /-- A key that stays is yielded, or all that has been yielded comes before it. -/
  complete : forall key, start.startsBy key = true -> stop.stopsAfter key = true ->
    (∀ state ∈ states, key ∈ state.keys) -> key ∈ reading.yielded.map Prod.fst ∨
      reading.ended = false ∧ ∀ row ∈ reading.yielded, compare row.1 key = .lt

variable {batch : Nat} {start stop : Bound Key} {reading : RangeReading Key Data}

theorem table_turn (batch : Nat) (reading : RangeReading Key Data) (turn : RangeTurn Key Data) :
    (reading.turn batch turn).table = turn.onTable reading.table := by
  cases turn with
  | commit edits => rfl
  | pull =>
      unfold RangeReading.turn pulled
      dsimp only
      split
      all_goals rfl

/-! ## Without writes -/

/-- A pull yields the first of the rows to come, if there is one. -/
theorem pulled_spec (positive : 0 < batch) (reading : RangeReading Key Data) :
    (reading.pulled batch).yielded =
        reading.yielded ++ (reading.scan.rest reading.table).take 1 ∧
      (reading.pulled batch).ended =
        (reading.ended || (reading.scan.rest reading.table).isEmpty) ∧
      (reading.pulled batch).scan.rest reading.table =
        (reading.scan.rest reading.table).drop 1 := by
  rcases Scan.next_rest positive reading.table reading.scan with ⟨isFirst, left⟩
  unfold pulled
  generalize reading.scan.next batch reading.table = read at isFirst left
  rcases read with ⟨row, after⟩
  cases rows : reading.scan.rest reading.table with
  | nil =>
      rw [rows] at isFirst left
      cases isFirst
      exact ⟨(List.append_nil _).symm, (Bool.or_true _).symm, left⟩
  | cons first others =>
      rw [rows] at isFirst left
      cases isFirst
      exact ⟨rfl, (Bool.or_false _).symm, left⟩

/-- Pulls yield the rows to come one after another, and the end is come upon by
the first pull that finds none of them left. -/
theorem run_pulls (positive : 0 < batch) (count : Nat) (reading : RangeReading Key Data) :
    (reading.run batch (List.replicate count .pull)).yielded =
        reading.yielded ++ (reading.scan.rest reading.table).take count ∧
      (reading.run batch (List.replicate count .pull)).ended =
        (reading.ended || decide ((reading.scan.rest reading.table).length < count)) := by
  induction count generalizing reading with
  | zero => exact ⟨(List.append_nil _).symm, (Bool.or_false _).symm⟩
  | succ count ih =>
      rcases pulled_spec positive reading with ⟨yields, ends, left⟩
      have sameTable : (reading.pulled batch).table = reading.table :=
        table_turn batch reading .pull
      have later := ih (reading.pulled batch)
      rw [sameTable, left, yields, ends] at later
      rw [List.append_assoc, ← List.take_add, Nat.add_comm 1 count] at later
      refine ⟨later.1, later.2.trans ?_⟩
      rw [Bool.or_assoc]
      congr 1
      cases reading.scan.rest reading.table with
      | nil => rfl
      | cons row rows => exact decide_eq_decide.mpr Nat.succ_lt_succ_iff.symm

/-! ## With writes -/

variable {seen : Key × Data -> Prop}

/-- What is true of a read stays true in a turn. -/
theorem continues_turn (continues : reading.scan.Continues start stop seen reading.yielded)
    (isSeen : ∀ row ∈ reading.table.rows, seen row) (turn : RangeTurn Key Data) :
    (reading.turn batch turn).scan.Continues start stop seen (reading.turn batch turn).yielded := by
  cases turn with
  | commit edits => exact continues
  | pull =>
      have next := continues.next batch isSeen
      unfold RangeReading.turn pulled
      dsimp only
      generalize reading.scan.next batch reading.table = read at next
      rcases read with ⟨_ | row, after⟩
      · exact next
      · exact next

/-- The key is yielded already, or it is still to come. -/
def Due (key : Key) (reading : RangeReading Key Data) : Prop :=
  key ∈ reading.yielded.map Prod.fst ∨ reading.scan.Awaits key ∧
    reading.ended = false ∧ ∀ row ∈ reading.yielded, compare row.1 key = .lt

/-- A key that is there when a row is asked for does not get lost. -/
theorem Due.turn {key : Key} (due : reading.Due key) (positive : 0 < batch)
    (isThere : key ∈ reading.table.keys) (turn : RangeTurn Key Data) :
    (reading.turn batch turn).Due key := by
  cases turn with
  | commit edits => exact due
  | pull =>
      unfold RangeReading.turn pulled
      dsimp only
      rcases due with isYielded | ⟨awaits, open_, before⟩
      · left
        split
        · rw [List.map_append]
          exact List.mem_append_left _ isYielded
        · exact isYielded
      · rcases List.mem_map.mp isThere with ⟨⟨_, data⟩, isRow, rfl⟩
        have next := awaits.next positive ⟨data, isRow⟩
        split
        · rename_i row scan isNext
          rw [isNext] at next
          rcases next with here | ⟨isLower, awaits⟩
          · left
            rw [List.map_append]
            exact List.mem_append_right _ (List.mem_singleton.mpr here.symm)
          · right
            refine ⟨awaits, open_, fun other member => ?_⟩
            rcases List.mem_append.mp member with isEarlier | isNew
            · exact before other isEarlier
            · exact List.mem_singleton.mp isNew ▸ isLower
        · rename_i scan isNext
          rw [isNext] at next
          exact next.elim

/-- What every turn keeps up while the table is as it should be is kept up by
turns between which the table always is. -/
theorem holds_run (holds : RangeReading Key Data -> Prop) {isRight : Table Key Data -> Prop}
    (kept : forall reading turn, holds reading -> isRight reading.table ->
      holds (reading.turn batch turn))
    (turns : List (RangeTurn Key Data)) (isHeld : holds reading)
    (areRight : ∀ state ∈ RangeTurn.states reading.table turns, isRight state) :
    holds (reading.run batch turns) := by
  induction turns generalizing reading with
  | nil => exact isHeld
  | cons turn rest ih =>
      refine ih (kept reading turn isHeld (areRight _ List.mem_cons_self)) fun state isState => ?_
      rw [table_turn] at isState
      exact areRight state (List.mem_cons_of_mem _ isState)

/-- What is true of a read stays true while turns are taken. -/
theorem continues_run (turns : List (RangeTurn Key Data))
    (continues : reading.scan.Continues start stop seen reading.yielded)
    (isSeen : ∀ state ∈ RangeTurn.states reading.table turns, ∀ row ∈ state.rows, seen row) :
    (reading.run batch turns).scan.Continues start stop seen (reading.run batch turns).yielded :=
  holds_run (fun reading => reading.scan.Continues start stop seen reading.yielded)
    (fun _ turn continues isSeen => continues_turn continues isSeen turn) turns continues isSeen

/-- A key that stays does not get lost while turns are taken. -/
theorem Due.run {key : Key} (turns : List (RangeTurn Key Data)) (due : reading.Due key)
    (positive : 0 < batch)
    (stays : ∀ state ∈ RangeTurn.states reading.table turns, key ∈ state.keys) :
    (reading.run batch turns).Due key :=
  holds_run (Due key) (fun _ turn due isThere => due.turn positive isThere turn) turns due stays

/-- A scan yields the rows of its range, in the order of their keys and each
once, whatever the size of its batches.  When the table is written to between
its pulls, what it yields is still in order and in the range, it makes up no row,
and it skips no key that stays. -/
theorem reads_opened (positive : 0 < batch) (table : Table Key Data) (start stop : Bound Key) :
    (forall count, let reading := (opened table start stop).run batch (List.replicate count .pull)
      reading.yielded = (table.range start stop).take count ∧
        reading.ended = decide ((table.range start stop).length < count)) ∧
    forall turns, ((opened table start stop).run batch turns).Reads start stop
      (RangeTurn.states table turns) := by
  constructor
  · exact fun count => run_pulls positive count (opened table start stop)
  · intro turns
    have isSeen : ∀ state ∈ RangeTurn.states table turns, ∀ row ∈ state.rows,
        ∃ state ∈ RangeTurn.states table turns, row ∈ state.rows :=
      fun state isState row isRow => ⟨state, isState, isRow⟩
    have continues : ((opened table start stop).run batch turns).scan.Continues start stop
        (fun row => ∃ state ∈ RangeTurn.states table turns, row ∈ state.rows)
        ((opened table start stop).run batch turns).yielded :=
      continues_run turns (Scan.continues_ofBounds start stop) isSeen
    have inside : ∀ row ∈ ((opened table start stop).run batch turns).yielded,
        (start.startsBy row.1 = true ∧ stop.stopsAfter row.1 = true) ∧
          ∃ state ∈ RangeTurn.states table turns, row ∈ state.rows :=
      fun row isYielded => continues.inside row (List.mem_append_left _ isYielded)
    refine ⟨continues.ascending.sublist (List.sublist_append_left _ _),
      fun row isYielded => (inside row isYielded).1,
      fun row isYielded => (inside row isYielded).2, ?_⟩
    intro key starts stops stays
    have due : (opened table start stop).Due key :=
      .inr ⟨Scan.awaits_ofBounds starts stops, rfl, nofun⟩
    exact (due.run turns positive stays).imp_right And.right

/-! ## A row that comes while others go -/

/-- Three rows, of which the second is erased after the first was pulled, when a
fourth one is inserted. -/
def letters : Table String Nat :=
  (Table.empty.insert "a" 1).insert "b" 2 |>.insert "c" 3

def lettersMove : List (RangeTurn String Nat) :=
  [.pull, .commit [.erase "b", .insert "d" 4], .pull, .pull, .pull]

theorem reads_opened_letters :
    ((opened letters (.included "a") .unbounded).run 1 lettersMove).Reads (.included "a") .unbounded
        (RangeTurn.states letters lettersMove) ∧
      ((opened letters (.included "a") .unbounded).run 1 lettersMove).yielded =
        [("a", 1), ("c", 3), ("d", 4)] ∧
      ((opened letters (.included "a") .unbounded).run 2 lettersMove).yielded =
        [("a", 1), ("b", 2), ("c", 3), ("d", 4)] := by
  refine ⟨(reads_opened Nat.one_pos letters _ _).2 lettersMove, ?_, ?_⟩
  · decide
  · decide

end RangeReading

end RecordIndex
