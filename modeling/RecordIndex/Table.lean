namespace RecordIndex

/-!
# Ordered tables

A table is a finite map that is read in the order of its keys.  It is kept as
the list of its rows in ascending order, so a table is determined by what it
holds and `rows` is its whole view: reading a range is filtering the rows, and
two tables with the same rows are the same table.

A table follows what the tables of the `redb` library show to one who reads
and writes them: keys in their order, at most one row for a key, and a write
that comes into force as a whole.  How `redb` lays out its pages, and what it
does when a file cannot be read or written, is left out.

The same operations on a bare list of rows serve the fields of an object,
which are ordered by name in the same way.
-/

namespace Rows

variable {Key Data : Type} [Ord Key]

/-- The data stored under a key. -/
def get? (key : Key) : List (Key × Data) -> Option Data
  | [] => none
  | (other, data) :: rest =>
      if compare key other == .eq then some data else get? key rest

/-- Store data under a key, in place of what the key held before. -/
def insert (key : Key) (data : Data) : List (Key × Data) -> List (Key × Data)
  | [] => [(key, data)]
  | (other, old) :: rest =>
      match compare key other with
      | .lt => (key, data) :: (other, old) :: rest
      | .eq => (key, data) :: rest
      | .gt => (other, old) :: insert key data rest

/-- Remove a key and its data. -/
def erase (key : Key) (rows : List (Key × Data)) : List (Key × Data) :=
  rows.filter fun row => compare key row.1 != .eq

/-- Rows in strictly ascending order of their keys. -/
def Ascending (rows : List (Key × Data)) : Prop :=
  rows.Pairwise fun first second => compare first.1 second.1 = .lt

theorem Ascending.nil : Ascending ([] : List (Key × Data)) :=
  List.Pairwise.nil

theorem Ascending.erase {rows : List (Key × Data)} (ascending : Ascending rows) (key : Key) :
    Ascending (erase key rows) :=
  List.Pairwise.filter _ ascending

/-- A row of the new rows is the inserted one or an old one. -/
theorem mem_of_mem_insert {key : Key} {data : Data} {rows : List (Key × Data)}
    {row : Key × Data} (member : row ∈ insert key data rows) :
    row = (key, data) ∨ row ∈ rows := by
  induction rows with
  | nil => exact Or.inl (List.mem_singleton.mp member)
  | cons head rest ih =>
      obtain ⟨other, old⟩ := head
      unfold insert at member
      split at member
      · exact List.mem_cons.mp member
      · rcases List.mem_cons.mp member with same | later
        · exact Or.inl same
        · exact Or.inr (List.mem_cons_of_mem _ later)
      · rcases List.mem_cons.mp member with same | later
        · exact Or.inr (same ▸ List.mem_cons_self)
        · exact (ih later).imp_right (List.mem_cons_of_mem _)

theorem Ascending.insert [Std.TransOrd Key] {rows : List (Key × Data)}
    (ascending : Ascending rows) (key : Key) (data : Data) :
    Ascending (insert key data rows) := by
  induction rows with
  | nil => exact List.pairwise_singleton _ _
  | cons head rest ih =>
      obtain ⟨other, old⟩ := head
      have parts := List.pairwise_cons.mp ascending
      unfold Rows.insert
      split
      · rename_i below
        refine List.pairwise_cons.mpr ⟨fun row member => ?_, ascending⟩
        rcases List.mem_cons.mp member with same | later
        · exact same ▸ below
        · exact Std.TransCmp.lt_trans below (parts.1 row later)
      · rename_i equal
        refine List.pairwise_cons.mpr ⟨fun row member => ?_, parts.2⟩
        exact Std.TransCmp.lt_of_eq_of_lt equal (parts.1 row member)
      · rename_i above
        refine List.pairwise_cons.mpr ⟨fun row member => ?_, ih parts.2⟩
        rcases mem_of_mem_insert member with same | earlier
        · exact same ▸ Std.OrientedCmp.lt_of_gt above
        · exact parts.1 row earlier

end Rows

/-- One end of a range of keys. -/
inductive Bound (Key : Type) where
  | unbounded
  | included (key : Key)
  | excluded (key : Key)
deriving DecidableEq

namespace Bound

variable {Key : Type} [Ord Key]

/-- The key lies on or after this lower end of a range. -/
def startsBy (start : Bound Key) (key : Key) : Bool :=
  match start with
  | .unbounded => true
  | .included low => (compare low key).isLE
  | .excluded low => (compare low key).isLT

/-- The key lies on or before this upper end of a range. -/
def stopsAfter (stop : Bound Key) (key : Key) : Bool :=
  match stop with
  | .unbounded => true
  | .included high => (compare key high).isLE
  | .excluded high => (compare key high).isLT

end Bound

/-- A finite map from keys to data, given by its rows in ascending order. -/
structure Table (Key Data : Type) [Ord Key] where
  rows : List (Key × Data)
  ascending : Rows.Ascending rows

namespace Table

variable {Key Data : Type} [Ord Key]

def empty : Table Key Data where
  rows := []
  ascending := Rows.Ascending.nil

instance : Inhabited (Table Key Data) :=
  ⟨empty⟩

/-- Two tables are the same when their rows are. -/
theorem ext {first second : Table Key Data} (same : first.rows = second.rows) :
    first = second := by
  cases first
  cases second
  cases same
  rfl

def get? (table : Table Key Data) (key : Key) : Option Data :=
  Rows.get? key table.rows

def contains (table : Table Key Data) (key : Key) : Bool :=
  (table.get? key).isSome

def insert [Std.TransOrd Key] (table : Table Key Data) (key : Key) (data : Data) :
    Table Key Data where
  rows := Rows.insert key data table.rows
  ascending := table.ascending.insert key data

def erase (table : Table Key Data) (key : Key) : Table Key Data where
  rows := Rows.erase key table.rows
  ascending := table.ascending.erase key

def keys (table : Table Key Data) : List Key :=
  table.rows.map Prod.fst

def values (table : Table Key Data) : List Data :=
  table.rows.map Prod.snd

def isEmpty (table : Table Key Data) : Bool :=
  table.rows.isEmpty

def size (table : Table Key Data) : Nat :=
  table.rows.length

/-- The rows whose keys lie between two bounds, in order. -/
def range (table : Table Key Data) (start stop : Bound Key) : List (Key × Data) :=
  table.rows.filter fun row => start.startsBy row.1 && stop.stopsAfter row.1

theorem ascending_range (table : Table Key Data) (start stop : Bound Key) :
    Rows.Ascending (table.range start stop) :=
  List.Pairwise.filter _ table.ascending

/-- Store each of a list of rows, later ones last. -/
def insertAll [Std.TransOrd Key] (table : Table Key Data) (rows : List (Key × Data)) :
    Table Key Data :=
  rows.foldl (fun table row => table.insert row.1 row.2) table

/-- Remove each of a list of keys. -/
def eraseAll (table : Table Key Data) (keys : List Key) : Table Key Data :=
  keys.foldl (fun table key => table.erase key) table

end Table

end RecordIndex
