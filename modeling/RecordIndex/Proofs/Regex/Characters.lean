import RecordIndex.Regex

namespace RecordIndex

/-!
# Expressions of one character

The smallest expressions ask for one character of a set.  They match the texts
that have such a character anywhere.
-/

namespace Search

/-- To read one character of the set. -/
def ofSet (set : CharSet) : Array Instruction :=
  #[.read set, .accept]

variable {set : CharSet}

/-- A match is not given up. -/
theorem isSome_searchFrom_of_found (program : Array Instruction) (text : List Char) (offset : Nat)
    (before : Option Char) (threads : List Thread) {found : Option Thread}
    (isFound : found.isSome = true) :
    (searchFrom program offset before threads found text).isSome = true := by
  induction text generalizing offset before threads found with
  | nil =>
      unfold searchFrom
      simp [isFound]
  | cons c rest ih =>
      unfold searchFrom
      exact ih _ _ _ (by simp [isFound])

theorem follow_start (cursor : Cursor) :
    follow (ofSet set) cursor (Array.replicate (ofSet set).size false) [.start] = [.start] := by
  simp [follow, ofSet, Thread.start, waits]

theorem follow_behind (cursor : Cursor) :
    follow (ofSet set) cursor (Array.replicate (ofSet set).size false)
      [Thread.start.next, .start] = [Thread.start.next, .start] := by
  simp [follow, ofSet, Thread.start, Thread.next, Thread.moveTo, waits]

/-- Behind a character of the set there is a match. -/
theorem isSome_searchFrom_behind (text : List Char) (offset : Nat) (before : Option Char) :
    (searchFrom (ofSet set) offset before [Thread.start.next] none text).isSome = true := by
  have accepts : accepts (ofSet set) Thread.start.next = true := rfl
  unfold searchFrom
  simp only [Option.isNone_none, if_true, List.cons_append, List.nil_append, follow_behind]
  cases text with
  | nil => simp [accepts]
  | cons c rest => exact isSome_searchFrom_of_found _ _ _ _ _ (by simp [accepts])

theorem isSome_searchFrom_ofSet (text : List Char) (offset : Nat) (before : Option Char) :
    (searchFrom (ofSet set) offset before [] none text).isSome = text.any set.contains := by
  have waits : accepts (ofSet set) .start = false := rfl
  induction text generalizing offset before with
  | nil =>
      unfold searchFrom
      simp [follow_start, waits]
  | cons c rest ih =>
      have reads : read? (ofSet set) c .start =
          if set.contains c then some Thread.start.next else none :=
        rfl
      unfold searchFrom
      simp only [Option.isNone_none, if_true, List.nil_append, follow_start]
      cases isMember : set.contains c with
      | true => simp [waits, reads, isMember, isSome_searchFrom_behind]
      | false => simp [waits, reads, isMember, ih]

end Search

/-- The expression of a set of characters matches the texts that have one of
them. -/
theorem Regex.isMatch_ofSet (source : String) (set : CharSet) (text : String) :
    Regex.isMatch ⟨source, Search.ofSet set⟩ text = text.toList.any set.contains :=
  Search.isSome_searchFrom_ofSet text.toList 0 none

end RecordIndex
